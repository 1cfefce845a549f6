import MeterBridge.Bytes
import MeterBridge.Meter

/-!
# Anchors

An anchor is a pattern of bytes with which telegrams of one kind begin, together with the length
of the window that is cut out where the pattern is found. Several anchors are sought together: the
leftmost occurrence wins, and of anchors that occur at one place the first in the list. An anchor
without a pattern is never found.
-/

namespace MeterBridge

/-- The kinds of telegrams. -/
inductive TelegramKind where
  /-- Telegrams that leave the headers of their records out. -/
  | compact
  /-- Telegrams with the headers of their records. -/
  | full
  /-- Not known. -/
  | unknown
  deriving DecidableEq, Repr

/-- The name of a kind. -/
def TelegramKind.name : TelegramKind → String
  | .compact => "compact"
  | .full => "full"
  | .unknown => "unknown"

/-- A pattern that telegrams begin with. -/
structure Anchor where
  /-- The pattern. -/
  pattern : Bytes
  /-- The kind of telegram that it begins. -/
  kind : TelegramKind
  /-- The length of the window to cut. -/
  window : UInt64
  deriving DecidableEq, Repr

namespace Anchor

/-- The anchor of compact telegrams. -/
def compact : Anchor := { pattern := [0x25, 0x44, 0x2D, 0x2C], kind := .compact, window := 38 }

/-- The anchor of full telegrams. -/
def full : Anchor := { pattern := [0x30, 0x44, 0x2D, 0x2C], kind := .full, window := 49 }

/-- The data begin with the pattern. -/
def isLeading (a : Anchor) (data : Bytes) : Bool :=
  !a.pattern.isEmpty && a.pattern.isPrefixOf data

/-- The first position, not before `start`, at which the pattern occurs. -/
def find? (a : Anchor) (data : Bytes) (start : Nat) : Option Nat :=
  if a.pattern.isEmpty then none else a.pattern.findFrom? start (data.drop start)

/-- An anchor of a list found in some data. -/
structure Sighting where
  /-- Where the pattern occurs. -/
  offset : Nat
  /-- The place of the anchor in the list. -/
  index : Nat
  /-- The anchor. -/
  anchor : Anchor
  deriving DecidableEq, Repr

/-- The greatest position that is ever computed. -/
def greatestPosition : Nat := UInt64.size - 1

/-- Where the window of a sighting ends, but not beyond the greatest position. -/
def Sighting.windowEnd (s : Sighting) : Nat :=
  min (s.offset + s.anchor.window.toNat) greatestPosition

/-- The leftmost of some sightings, the first of them if several are leftmost. -/
def leftmost? : List Sighting → Option Sighting
  | [] => none
  | s :: rest =>
    match leftmost? rest with
    | none => some s
    | some t => if t.offset < s.offset then some t else some s

/-- The first sighting of each anchor, not before `start`. -/
def sightings (anchors : List Anchor) (data : Bytes) (start : Nat) : List Sighting :=
  anchors.zipIdx.filterMap fun (anchor, index) =>
    (anchor.find? data start).map fun offset => { offset, index, anchor }

/-- The first sighting of any anchor, not before `start`. -/
def first? (anchors : List Anchor) (data : Bytes) (start : Nat) : Option Sighting :=
  leftmost? (sightings anchors data start)

/-- Some anchor occurs in the data. -/
def occursIn (anchors : List Anchor) (data : Bytes) : Bool := (first? anchors data 0).isSome

/-- The first anchor of the list that the data begin with. -/
def leading? (anchors : List Anchor) (data : Bytes) : Option Sighting :=
  (anchors.zipIdx.find? fun (anchor, _) => anchor.isLeading data).map fun (anchor, index) =>
    { offset := 0, index, anchor }

/-- The kind of telegram that the data begin with. -/
def kindOf (anchors : List Anchor) (data : Bytes) : TelegramKind :=
  match leading? anchors data with
  | some s => s.anchor.kind
  | none => .unknown

/-! ### Where a search ends -/

/-- An anchor is not found before the place from which it was sought. -/
theorem le_of_find? {a : Anchor} {data : Bytes} {start i : Nat}
    (h : a.find? data start = some i) : start ≤ i := by
  unfold find? at h
  split at h
  · simp at h
  · exact Bytes.le_of_findFrom? h

/-- The leftmost sighting is one of those given. -/
theorem mem_of_leftmost? {ss : List Sighting} {s : Sighting} (h : leftmost? ss = some s) :
    s ∈ ss := by
  induction ss generalizing s with
  | nil => simp [leftmost?] at h
  | cons t rest ih =>
    rw [leftmost?] at h
    split at h
    · simp_all
    · next u hu =>
      split at h
      · exact List.mem_cons_of_mem _ (Option.some.inj h ▸ ih hu)
      · simp_all

/-- A sighting is not before the place from which it was sought. -/
theorem le_of_first? {anchors : List Anchor} {data : Bytes} {start : Nat} {s : Sighting}
    (h : first? anchors data start = some s) : start ≤ s.offset := by
  have hs := mem_of_leftmost? h
  simp only [sightings, List.mem_filterMap, Option.map_eq_some_iff] at hs
  obtain ⟨_, _, offset, hoffset, rfl⟩ := hs
  exact le_of_find? hoffset

end Anchor

end MeterBridge
