import MeterBridge.Proofs.Extraction

/-!
# Extraction by machine arithmetic

The library counts with natural numbers, and its slices are what there is of them. A machine has a greatest
number, no negative ones, and stops at a slice that is not there. Here the extraction is written down once
more with the operations of the machine, each of which may fail, and in the order in which they are made.
Searching, stripping and the rules that take one piece never fail and compute the same as the library
(`strip_eq`, `first?_eq`, `singleFrame_eq`, `offsetTrim_eq`), whatever the anchors and the parameters of
the rules are. Sums of parameters are the only ones that may be too great, and these are made with
`checkedSum?`.

The scan may not end at all; that it is safe is another matter, of its rounds.
-/

namespace MeterBridge

open Anchor (Sighting)

namespace Machine

/-! ### The operations -/

/-- What stops a machine. -/
inductive Fault where
  /-- A number is beyond the greatest one of its type. -/
  | overflow
  /-- A difference is below zero. -/
  | underflow
  /-- A slice ends before it begins, or behind the data. -/
  | outOfRange
  /-- Windows of no bytes are sought. -/
  | emptyWindow
  deriving DecidableEq, Repr

/-- A sum of two numbers. -/
def sum (a b : Nat) : Except Fault Nat := if a + b < UInt64.size then .ok (a + b) else .error .overflow

/-- A sum of two numbers that is not made if it is too great. -/
def checkedSum? (a b : Nat) : Option Nat := if a + b < UInt64.size then some (a + b) else none

/-- The difference of two numbers. -/
def difference (a b : Nat) : Except Fault Nat := if b ≤ a then .ok (a - b) else .error .underflow

/-- The bytes from `start` up to, and without, `stop`. -/
def slice (data : Bytes) (start stop : Nat) : Except Fault Bytes :=
  if start ≤ stop ∧ stop ≤ data.length then .ok (data.slice start stop) else .error .outOfRange

/-- The place of the first window that is the pattern, among the windows as long as the pattern. -/
def windowPosition? (pattern data : Bytes) : Except Fault (Option Nat) :=
  if pattern.isEmpty then .error .emptyWindow else .ok (pattern.find? data)

variable {a b start stop : Nat} {data pattern : Bytes}

theorem sum_eq (h : a + b < UInt64.size) : sum a b = .ok (a + b) := if_pos h

theorem difference_eq (h : b ≤ a) : difference a b = .ok (a - b) := if_pos h

theorem slice_eq (hstart : start ≤ stop) (hstop : stop ≤ data.length) :
    slice data start stop = .ok (data.slice start stop) :=
  if_pos ⟨hstart, hstop⟩

theorem windowPosition?_eq (h : pattern.isEmpty = false) :
    windowPosition? pattern data = .ok (pattern.find? data) := by
  rw [windowPosition?, h, if_neg Bool.false_ne_true]

/-! ### Envelopes -/

/-- Takes the envelope away, if there is one. -/
def strip (payload : Bytes) : Except Fault Envelope.Stripped := do
  if Envelope.isWrapped payload then
    let stop ← difference payload.length Envelope.closing.length
    let core ← slice payload Envelope.opening.length stop
    return { payload, core, wrapped := true }
  else
    return { payload, core := payload, wrapped := false }

theorem strip_eq (payload : Bytes) : strip payload = .ok (Envelope.strip payload) := by
  rw [strip, Envelope.strip]
  split
  · next hwrapped =>
    have hlong := Envelope.lt_length_of_isWrapped hwrapped
    rw [difference_eq (by omega)]
    simp only [bind, Except.bind]
    rw [slice_eq (by omega) (Nat.sub_le _ _)]
    rfl
  · rfl

/-! ### Searches -/

/-- The first position, not before `start`, at which the pattern of an anchor occurs. -/
def find? (a : Anchor) (data : Bytes) (start : Nat) : Except Fault (Option Nat) := do
  if a.pattern.isEmpty || data.length ≤ start then return none
  let rest ← slice data start data.length
  match ← windowPosition? a.pattern rest with
  | none => return none
  | some position => return some (← sum position start)

/-- The first sighting of each anchor, not before `start`. -/
def sightings (anchors : List Anchor) (data : Bytes) (start : Nat) : Except Fault (List Sighting) := do
  let found ← anchors.zipIdx.mapM fun (anchor, index) => do
    return (← find? anchor data start).map fun offset => { offset, index, anchor }
  return found.filterMap id

/-- The first sighting of any anchor, not before `start`. -/
def first? (anchors : List Anchor) (data : Bytes) (start : Nat) : Except Fault (Option Sighting) := do
  return Anchor.leftmost? (← sightings anchors data start)

/-- Some anchor occurs in the data. -/
def occursIn (anchors : List Anchor) (data : Bytes) : Except Fault Bool := do
  return (← first? anchors data 0).isSome

end Machine

/-- Where the first byte stands is only added to what a search finds. -/
theorem Bytes.findFrom?_add (pattern data : Bytes) (position k : Nat) :
    findFrom? pattern (position + k) data = (findFrom? pattern position data).map (· + k) := by
  induction data generalizing position with
  | nil =>
    rw [findFrom?, findFrom?]
    split <;> rfl
  | cons b rest ih =>
    rw [findFrom?, findFrom?]
    split
    · rfl
    · rw [← ih, Nat.add_right_comm]

namespace Machine

section Search

variable {data : Bytes} (hdata : data.length < UInt64.size)

include hdata

/-- A position that is found lies inside the data. -/
theorem find?_eq (a : Anchor) (start : Nat) : find? a data start = .ok (a.find? data start) := by
  rw [find?, Anchor.find?]
  cases hempty : a.pattern.isEmpty with
  | true => rfl
  | false =>
    rw [if_neg Bool.false_ne_true, Bool.false_or]
    by_cases hbehind : data.length ≤ start
    · rw [if_pos (decide_eq_true hbehind), List.drop_eq_nil_of_le hbehind, Bytes.findFrom?, hempty]
      rfl
    · rw [if_neg (by simpa using hbehind), slice_eq (Nat.le_of_not_le hbehind) (Nat.le_refl _)]
      have hslice : data.slice start data.length = data.drop start := by
        rw [Bytes.slice, List.take_length]
      have hshift := Bytes.findFrom?_add a.pattern (data.drop start) 0 start
      rw [Nat.zero_add] at hshift
      simp only [bind, Except.bind, pure, Except.pure, windowPosition?_eq hempty, hslice, Bytes.find?,
        hshift]
      cases hfound : Bytes.findFrom? a.pattern 0 (data.drop start) with
      | none => rfl
      | some position =>
        have hle := Bytes.findFrom?_add_length_le hfound
        rw [List.length_drop] at hle
        simp only [sum_eq (show position + start < UInt64.size by omega), Option.map_some]

theorem sightings_eq (anchors : List Anchor) (start : Nat) :
    sightings anchors data start = .ok (Anchor.sightings anchors data start) := by
  have hfound : ∀ place : Anchor × Nat,
      (do return (← find? place.1 data start).map fun offset => ⟨offset, place.2, place.1⟩) =
        (pure ((place.1.find? data start).map fun offset => ⟨offset, place.2, place.1⟩) :
          Except Fault (Option Sighting)) := fun place => by rw [find?_eq hdata]; rfl
  simp only [sightings, hfound, List.mapM_pure, pure_bind, List.filterMap_map]
  rfl

theorem first?_eq (anchors : List Anchor) (start : Nat) :
    first? anchors data start = .ok (Anchor.first? anchors data start) := by
  rw [first?, sightings_eq hdata]
  rfl

theorem occursIn_eq (anchors : List Anchor) :
    occursIn anchors data = .ok (Anchor.occursIn anchors data) := by
  rw [occursIn, first?_eq hdata]
  rfl

end Search

/-! ### Rules that take one piece -/

/-- The core as the only candidate. -/
def singleFrame (anchors : List Anchor) (choice : Rule.Choice) (frame : Envelope.Stripped)
    (leastCore : Nat) : Except Fault Extraction.Yield := do
  let core := frame.core
  if core.length < leastCore then return ([], some (.coreTooShort core.length leastCore))
  -- Anchors are sought only if there is no envelope.
  let heard ← if frame.wrapped then pure true else occursIn anchors core
  if !heard then return ([], some (.bareWithoutAnchor core.length))
  return ([{ bytes := core, choice, kind := Anchor.kindOf anchors core, offset := frame.coreOffset }],
    none)

/-- The payload without so many bytes at both ends, as the only candidate. -/
def offsetTrim (anchors : List Anchor) (choice : Rule.Choice) (payload : Bytes)
    (leading trailing : Nat) : Except Fault Extraction.Yield := do
  match checkedSum? leading trailing with
  | none => return ([], some .trimmedAway)
  | some both =>
    if payload.length ≤ both then return ([], some .trimmedAway)
    let stop ← difference payload.length trailing
    let trimmed ← slice payload leading stop
    if ← occursIn anchors trimmed then
      return ([{ bytes := trimmed, choice, kind := Anchor.kindOf anchors trimmed, offset := leading }],
        none)
    return ([], some (.trimmedWithoutAnchor trimmed.length))

theorem singleFrame_eq {frame : Envelope.Stripped} (hcore : frame.core.length < UInt64.size)
    (anchors : List Anchor) (choice : Rule.Choice) (leastCore : Nat) :
    singleFrame anchors choice frame leastCore =
      .ok (Extraction.singleFrame anchors choice frame leastCore) := by
  dsimp only [singleFrame, Extraction.singleFrame]
  split
  · rfl
  · rw [occursIn_eq hcore]
    cases frame.wrapped <;> cases Anchor.occursIn anchors frame.core <;> rfl

/-- A sum of trims that is too great is greater than any payload. -/
theorem offsetTrim_eq {payload : Bytes} (hpayload : payload.length < UInt64.size)
    (anchors : List Anchor) (choice : Rule.Choice) (leading trailing : Nat) :
    offsetTrim anchors choice payload leading trailing =
      .ok (Extraction.offsetTrim anchors choice payload leading trailing) := by
  dsimp only [offsetTrim, Extraction.offsetTrim, checkedSum?]
  by_cases hlong : payload.length ≤ leading + trailing
  · rw [if_pos hlong]
    split
    · rfl
    · next both hsum =>
      cases (Option.ite_none_right_eq_some.1 hsum).2
      rw [if_pos hlong]
      rfl
  · have hlength : (payload.slice leading (payload.length - trailing)).length < UInt64.size := by
      rw [Bytes.length_slice_of_le (Nat.sub_le _ _)]
      omega
    rw [if_pos (show leading + trailing < UInt64.size by omega), if_neg hlong]
    simp only [hlong, if_false, difference_eq (show trailing ≤ payload.length by omega), bind,
      Except.bind, slice_eq (show leading ≤ payload.length - trailing by omega) (Nat.sub_le _ _),
      occursIn_eq hlength]
    split <;> rfl

end Machine

end MeterBridge
