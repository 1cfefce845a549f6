import MeterBridge.Config
import MeterBridge.Envelope
import MeterBridge.Log

/-!
# Extraction

The length of a payload selects a rule, and the rule cuts candidates out of the payload or out of
its core. Bad data are no failure: a payload that yields nothing gives an extraction without
candidates. The only failure is a rule table without an answer.

The scan cuts windows from left to right. Each window begins at the leftmost occurrence of an
anchor behind the window before, so windows never overlap. The scan ends when no anchor is left,
when the window of the next one runs past the end of the core, or when a window would not lead the
scan any further, as the empty window of a faulty anchor.
-/

namespace MeterBridge

/-- A part of a payload that may be a telegram. -/
structure Candidate where
  /-- The bytes of the part. -/
  bytes : Bytes
  /-- The rule that cut it. -/
  choice : Rule.Choice
  /-- The kind of the anchor it begins with. -/
  kind : TelegramKind
  /-- Where it begins in the payload. -/
  offset : Nat
  deriving DecidableEq, Repr

/-- Where the candidate ends in the payload. -/
def Candidate.stop (c : Candidate) : Nat := c.offset + c.bytes.length

namespace Extraction

/-- Why a rule cut nothing, or nothing more. -/
inductive Remark where
  /-- The core is shorter than the rule wants. -/
  | coreTooShort (length least : Nat)
  /-- There is no envelope, and no anchor in the core. -/
  | bareWithoutAnchor (length : Nat)
  /-- The payload is not longer than what is to be trimmed. -/
  | trimmedAway
  /-- No anchor is in what trimming leaves. -/
  | trimmedWithoutAnchor (length : Nat)
  /-- The window of an anchor runs past the end of the core. -/
  | cutShort (kind : TelegramKind) (offset window left : Nat)
  /-- The window of an anchor does not lead the scan any further. -/
  | stalled (offset : Nat)
  deriving DecidableEq, Repr

/-- What a remark says; trimming away a whole payload and a scan that stalls are not reported. -/
def Remark.entries : Remark → List Log.Entry
  | .coreTooShort length least =>
    [⟨.debug, s!"Core too short for single frame: {length} bytes, need {least}"⟩]
  | .bareWithoutAnchor length =>
    [⟨.debug, s!"Unwrapped {length}-byte notification has no anchor"⟩]
  | .trimmedWithoutAnchor length =>
    [⟨.debug, s!"Offset-trimmed frame ({length} bytes) has no anchor"⟩]
  | .cutShort kind offset window left =>
    [⟨.debug, s!"Incomplete trailing frame: {kind.name} anchor at offset {offset} needs {window} "
      ++ s!"bytes, {left} left"⟩]
  | .trimmedAway | .stalled _ => []

/-- What a scan finds: windows by where they stand in the core, and why it ended early. -/
structure Scan where
  /-- The sightings whose windows are cut, from left to right. -/
  cuts : List Anchor.Sighting
  /-- Why the scan ended although an anchor was left. -/
  remark : Option Remark
  deriving DecidableEq, Repr

/-- Scans the core from a position on. -/
def scanFrom (anchors : List Anchor) (core : Bytes) (cursor : Nat) : Scan :=
  match _h : Anchor.first? anchors core cursor with
  | none => { cuts := [], remark := none }
  | some s =>
    if core.length < s.windowEnd then
      { cuts := [],
        remark := some (.cutShort s.anchor.kind s.offset s.anchor.window.toNat
          (core.length - s.offset)) }
    else if s.windowEnd ≤ s.offset then { cuts := [], remark := some (.stalled s.offset) }
    else
      let rest := scanFrom anchors core s.windowEnd
      { rest with cuts := s :: rest.cuts }
termination_by core.length - cursor
decreasing_by
  have := Anchor.le_of_first? _h
  omega

end Extraction

/-- What a rule cuts out of a payload. -/
structure Extraction where
  /-- The rule. -/
  choice : Rule.Choice
  /-- The length that selected the rule. -/
  declaredLength : Nat
  /-- The payload was an envelope. -/
  wrapped : Bool
  /-- The candidates, from left to right. -/
  candidates : List Candidate
  /-- Why nothing, or nothing more, was cut. -/
  remark : Option Extraction.Remark
  deriving DecidableEq, Repr

namespace Extraction

/-- The scan met an anchor whose window runs past the end of the core. -/
def hasIncompleteTail (e : Extraction) : Bool :=
  match e.remark with
  | some (.cutShort ..) => true
  | _ => false

/-- Candidates, and why there are no more. -/
abbrev Yield := List Candidate × Option Remark

/-- The core as the only candidate. A bare core must hold an anchor somewhere. -/
def singleFrame (anchors : List Anchor) (choice : Rule.Choice) (frame : Envelope.Stripped)
    (leastCore : Nat) : Yield :=
  let core := frame.core
  if core.length < leastCore then ([], some (.coreTooShort core.length leastCore))
  else if !frame.wrapped && !Anchor.occursIn anchors core then
    ([], some (.bareWithoutAnchor core.length))
  else
    ([{ bytes := core, choice, kind := Anchor.kindOf anchors core,
        offset := frame.coreOffset }], none)

/-- The payload without so many bytes at both ends, as the only candidate. It must hold an anchor
somewhere. -/
def offsetTrim (anchors : List Anchor) (choice : Rule.Choice) (payload : Bytes)
    (leading trailing : Nat) : Yield :=
  if payload.length ≤ leading + trailing then ([], some .trimmedAway)
  else
    let trimmed := payload.slice leading (payload.length - trailing)
    if Anchor.occursIn anchors trimmed then
      ([{ bytes := trimmed, choice, kind := Anchor.kindOf anchors trimmed,
          offset := leading }], none)
    else ([], some (.trimmedWithoutAnchor trimmed.length))

/-- The window of a sighting as a candidate. -/
def cut (choice : Rule.Choice) (frame : Envelope.Stripped) (s : Anchor.Sighting) : Candidate :=
  { bytes := frame.core.slice s.offset s.windowEnd, choice, kind := s.anchor.kind,
    offset := frame.coreOffset + s.offset }

/-- The windows of a scan of the core as candidates. -/
def multiFrameScan (anchors : List Anchor) (choice : Rule.Choice) (frame : Envelope.Stripped) :
    Yield :=
  let scan := scanFrom anchors frame.core 0
  (scan.cuts.map (cut choice frame), scan.remark)

/-- What a rule cuts out of a payload. -/
def apply (anchors : List Anchor) (choice : Rule.Choice) (frame : Envelope.Stripped) : Yield :=
  match choice.rule with
  | .singleFrame leastCore => singleFrame anchors choice frame leastCore.toNat
  | .offsetTrim leading trailing =>
    offsetTrim anchors choice frame.payload leading.toNat trailing.toNat
  | .multiFrameScan => multiFrameScan anchors choice frame

end Extraction

/-- Cuts candidates out of a payload by the rule for its length. -/
def Config.extract (c : Config) (payload : Bytes) : Except Error Extraction := do
  let frame := Envelope.strip payload
  let choice ← c.rules.ruleFor frame.declaredLength
  let (candidates, remark) := Extraction.apply c.anchors choice frame
  return {
    choice, declaredLength := frame.declaredLength, wrapped := frame.wrapped, candidates, remark }

end MeterBridge
