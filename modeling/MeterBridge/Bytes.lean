/-!
# Byte strings

Notifications, telegrams and the patterns sought in them are plain lists of bytes. This module
fixes the name and gives the one search the library needs: where a pattern first occurs.
-/

namespace MeterBridge

/-- A string of bytes. -/
abbrev Bytes := List UInt8

namespace Bytes

/-- The bytes of `data` from position `start` up to, and without, position `stop`. -/
def slice (data : Bytes) (start stop : Nat) : Bytes := (data.take stop).drop start

/-- The whole pattern stands in `data` at position `i`. -/
def OccursAt (pattern data : Bytes) (i : Nat) : Prop :=
  slice data i (i + pattern.length) = pattern

instance (pattern data : Bytes) (i : Nat) : Decidable (OccursAt pattern data i) :=
  inferInstanceAs (Decidable (_ = _))

/-- The first position at which the pattern occurs, counted from `position`, the place of the
first byte given. -/
def findFrom? (pattern : Bytes) (position : Nat) : Bytes → Option Nat
  | [] => if pattern.isEmpty then some position else none
  | b :: rest =>
    if pattern.isPrefixOf (b :: rest) then some position
    else findFrom? pattern (position + 1) rest

/-- The first position at which the pattern occurs. -/
def find? (pattern data : Bytes) : Option Nat := findFrom? pattern 0 data

/-- A position that is found is not before the place of the first byte. -/
theorem le_of_findFrom? {pattern data : Bytes} {position i : Nat}
    (h : findFrom? pattern position data = some i) : position ≤ i := by
  fun_induction findFrom? pattern position data with
  | case1 => simp_all
  | case2 => simp_all
  | case3 => simp_all
  | case4 position b rest hp ih => exact Nat.le_of_succ_le (ih h)

/-- A pattern that is found lies inside the data. -/
theorem findFrom?_add_length_le {pattern data : Bytes} {position i : Nat}
    (h : findFrom? pattern position data = some i) :
    i + pattern.length ≤ position + data.length := by
  fun_induction findFrom? pattern position data with
  | case1 position hp => simp_all
  | case2 => simp_all
  | case3 position b rest hp =>
    have := (List.isPrefixOf_iff_prefix.1 hp).length_le
    simp_all
  | case4 position b rest hp ih =>
    have := ih h
    simp only [List.length_cons]
    omega

end Bytes

end MeterBridge
