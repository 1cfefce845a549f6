import MeterBridge.Bytes
import Mathlib.Data.Nat.Find

/-!
# Occurrences

What `Bytes.slice` and `Bytes.OccursAt` say, and what the search `findFrom?` finds: the first
occurrence of a pattern (`findFrom?_eq_some_iff`), or nothing because there is none
(`findFrom?_eq_none_iff`). Positions in the data of a search are counted from its first byte, so
each statement names the position that this byte has.
-/

namespace MeterBridge.Bytes

variable {pattern data : Bytes} {i : Nat}

/-! ### Slices -/

/-- A slice is what is left behind its start, up to its length. -/
theorem slice_eq_take_drop (data : Bytes) (start stop : Nat) :
    data.slice start stop = (data.drop start).take (stop - start) := by
  rw [slice, List.drop_take]

theorem length_slice (data : Bytes) (start stop : Nat) :
    (data.slice start stop).length = min stop data.length - start := by
  rw [slice, List.length_drop, List.length_take]

/-- A slice that ends inside the data has the length that its ends say. -/
theorem length_slice_of_le {data : Bytes} {start stop : Nat} (h : stop ≤ data.length) :
    (data.slice start stop).length = stop - start := by
  rw [length_slice, Nat.min_eq_left h]

/-- A slice of a slice is a slice. -/
theorem slice_slice {data : Bytes} {start stop i j : Nat} (h : start + j ≤ stop) :
    (data.slice start stop).slice i j = data.slice (start + i) (start + j) := by
  simp only [slice_eq_take_drop, List.drop_take, List.drop_drop, List.take_take]
  congr 1
  omega

theorem slice_self (data : Bytes) : data.slice 0 data.length = data := by
  rw [slice, List.take_length, List.drop_zero]

/-- A slice that ends inside the data does not care about bytes behind them. -/
theorem slice_append_of_le {start stop : Nat} (h : stop ≤ data.length) (rest : Bytes) :
    (data ++ rest).slice start stop = data.slice start stop := by
  rw [slice, List.take_append_of_le_length h, slice]

/-! ### Occurrences -/

/-- A pattern occurs where the rest of the data begins with it. -/
theorem occursAt_iff_drop : OccursAt pattern data i ↔ pattern <+: data.drop i := by
  rw [OccursAt, slice_eq_take_drop, Nat.add_sub_cancel_left, List.prefix_iff_eq_take, eq_comm]

theorem occursAt_zero : OccursAt pattern data 0 ↔ pattern <+: data := by
  rw [occursAt_iff_drop, List.drop_zero]

/-- Bytes in front of the data move an occurrence by their number. -/
theorem occursAt_append_add {front : Bytes} :
    OccursAt pattern (front ++ data) (front.length + i) ↔ OccursAt pattern data i := by
  rw [occursAt_iff_drop, occursAt_iff_drop, ← List.drop_drop, List.drop_left]

theorem occursAt_cons_succ {b : UInt8} :
    OccursAt pattern (b :: data) (i + 1) ↔ OccursAt pattern data i := by
  rw [occursAt_iff_drop, occursAt_iff_drop, List.drop_succ_cons]

/-- Bytes behind the data change no occurrence. -/
theorem OccursAt.append_right (h : OccursAt pattern data i) {rest : Bytes} :
    OccursAt pattern (data ++ rest) i := by
  rw [occursAt_iff_drop] at h ⊢
  rw [List.drop_append]
  exact h.trans (List.prefix_append _ _)

/-- An occurrence that ends inside the data does not need the bytes behind them. -/
theorem OccursAt.of_append_right {rest : Bytes} (h : OccursAt pattern (data ++ rest) i)
    (hend : i + pattern.length ≤ data.length) : OccursAt pattern data i := by
  rwa [OccursAt, slice_append_of_le hend] at h

/-- The rest of the data has the occurrences that stand in it. -/
theorem occursAt_drop {start : Nat} :
    OccursAt pattern (data.drop start) i ↔ OccursAt pattern data (start + i) := by
  rw [occursAt_iff_drop, occursAt_iff_drop, List.drop_drop]

/-- A slice begins with the patterns that occur where it begins and have room in it. -/
theorem occursAt_slice_zero {start stop : Nat} :
    OccursAt pattern (data.slice start stop) 0 ↔
      OccursAt pattern data start ∧ pattern.length ≤ stop - start := by
  rw [occursAt_zero, occursAt_iff_drop, slice_eq_take_drop, List.prefix_take_iff]

/-- An occurrence of a pattern lies inside the data. -/
theorem OccursAt.add_length_le (h : OccursAt pattern data i) (hne : pattern ≠ []) :
    i + pattern.length ≤ data.length := by
  have hle := (occursAt_iff_drop.1 h).length_le
  have hpos := List.length_pos_iff.2 hne
  rw [List.length_drop] at hle
  omega

/-- The first byte of a pattern stands where the pattern occurs. -/
theorem OccursAt.getElem?_eq_head? (h : OccursAt pattern data i) (hne : pattern ≠ []) :
    data[i]? = pattern.head? := by
  obtain ⟨rest, hrest⟩ := occursAt_iff_drop.1 h
  cases pattern with
  | nil => exact absurd rfl hne
  | cons b pattern =>
    have : (data.drop i)[0]? = some b := by rw [← hrest]; rfl
    rwa [List.getElem?_drop, Nat.add_zero] at this

/-! ### The first occurrence -/

/-- The search finds the first occurrence. -/
theorem findFrom?_eq_some_iff {position : Nat} (hne : pattern ≠ []) :
    findFrom? pattern position data = some i ↔
      ∃ k, i = position + k ∧ OccursAt pattern data k ∧ ∀ j < k, ¬ OccursAt pattern data j := by
  fun_induction findFrom? pattern position data with
  | case1 position hempty => exact absurd (List.isEmpty_iff.1 hempty) hne
  | case2 position hempty =>
    refine ⟨fun h => by simp at h, ?_⟩
    rintro ⟨k, -, hk, -⟩
    have hle := hk.add_length_le hne
    have hpos := List.length_pos_iff.2 hne
    rw [List.length_nil] at hle
    omega
  | case3 position b rest hprefix =>
    have hzero := occursAt_zero.2 (List.isPrefixOf_iff_prefix.1 hprefix)
    constructor
    · rintro ⟨⟩
      exact ⟨0, rfl, hzero, fun j hj => absurd hj (Nat.not_lt_zero j)⟩
    · rintro ⟨k, rfl, -, hfirst⟩
      cases k with
      | zero => rfl
      | succ k => exact absurd hzero (hfirst 0 (Nat.succ_pos k))
  | case4 position b rest hprefix ih =>
    have hzero : ¬ OccursAt pattern (b :: rest) 0 := fun h =>
      hprefix (List.isPrefixOf_iff_prefix.2 (occursAt_zero.1 h))
    rw [ih]
    constructor
    · rintro ⟨k, rfl, hk, hfirst⟩
      refine ⟨k + 1, by omega, occursAt_cons_succ.2 hk, fun j hj => ?_⟩
      cases j with
      | zero => exact hzero
      | succ j => exact fun h => hfirst j (by omega) (occursAt_cons_succ.1 h)
    · rintro ⟨k, rfl, hk, hfirst⟩
      cases k with
      | zero => exact absurd hk hzero
      | succ k =>
        exact ⟨k, by omega, occursAt_cons_succ.1 hk, fun j hj h =>
          hfirst (j + 1) (by omega) (occursAt_cons_succ.2 h)⟩

/-- The search finds nothing where there is no occurrence. -/
theorem findFrom?_eq_none_iff {position : Nat} (hne : pattern ≠ []) :
    findFrom? pattern position data = none ↔ ∀ j, ¬ OccursAt pattern data j := by
  constructor
  · intro h j hj
    -- Of all occurrences the least one would be found.
    have hexists : ∃ k, OccursAt pattern data k := ⟨j, hj⟩
    have hfound := (findFrom?_eq_some_iff (i := position + Nat.find hexists) hne).2
      ⟨_, rfl, Nat.find_spec hexists, fun k hk => Nat.find_min hexists hk⟩
    rw [h] at hfound
    cases hfound
  · intro h
    cases hfound : findFrom? pattern position data with
    | none => rfl
    | some i =>
      obtain ⟨k, -, hk, -⟩ := (findFrom?_eq_some_iff hne).1 hfound
      exact absurd hk (h k)

end MeterBridge.Bytes
