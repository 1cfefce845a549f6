import MeterBridge.Text.Digit
import Mathlib.Algebra.Group.Nat.Defs
import Mathlib.Data.List.Basic
import Mathlib.Data.List.Induction

/-!
# Decimal digits

Digits denote a number, and zeros in front of them change nothing. Digits of one length that denote the same
number are the same (`eq_of_value_eq`). So a number written with a fixed width is what any digits that denote
it are with zeros in front (`padLeft_toDigits_value`).
-/

namespace MeterBridge.Digit

variable {ds es : List Char} {c : Char} {width : Nat}

theorem value_eq_ofDigitChars (ds : List Char) : value ds = Nat.ofDigitChars 10 ds 0 := by
  rw [value, Nat.ofDigitChars]
  congr 1
  funext value c
  rw [Nat.mul_comm]
  rfl

/-- The digits of a number denote it. -/
theorem value_toDigits (n : Nat) : value (Nat.toDigits 10 n) = n := by
  rw [value_eq_ofDigitChars, Nat.ofDigitChars_ten_toDigits]

theorem value_concat (ds : List Char) (c : Char) : value (ds ++ [c]) = value ds * 10 + (c.toNat - 48) := by
  rw [value, List.foldl_append]
  rfl

/-- A digit is one of ten. -/
theorem range_of_isDigit (h : c.isDigit = true) : 48 ≤ c.toNat ∧ c.toNat ≤ 57 := Char.isDigit_iff_toNat.1 h

theorem value_lt (h : ∀ c ∈ ds, c.isDigit = true) : value ds < 10 ^ ds.length := by
  induction ds using List.reverseRecOn with
  | nil => exact Nat.one_pos
  | append_singleton ds c ih =>
    rw [List.forall_mem_append, List.forall_mem_singleton] at h
    have hlast := range_of_isDigit h.2
    have hfront := ih h.1
    rw [value_concat, List.length_append, List.length_singleton, Nat.pow_succ]
    omega

/-- **The digits of a number are fixed by their count.** -/
theorem eq_of_value_eq (hds : ∀ c ∈ ds, c.isDigit = true) (hes : ∀ c ∈ es, c.isDigit = true)
    (hlength : ds.length = es.length) (h : value ds = value es) : ds = es := by
  induction ds using List.reverseRecOn generalizing es with
  | nil => exact (List.eq_nil_of_length_eq_zero hlength.symm).symm
  | append_singleton ds c ih =>
    rcases List.eq_nil_or_concat' es with rfl | ⟨es, d, rfl⟩
    · simp at hlength
    · rw [List.forall_mem_append, List.forall_mem_singleton] at hds hes
      rw [value_concat, value_concat] at h
      have hc := range_of_isDigit hds.2
      have hd := range_of_isDigit hes.2
      have hlast : c = d := Char.toNat_inj.1 (by omega)
      have hfront : ds = es := ih hds.1 hes.1 (by simpa using hlength) (by omega)
      rw [hlast, hfront]

/-! ### Zeros in front -/

theorem value_padLeft (width : Nat) (ds : List Char) : value (padLeft width ds) = value ds := by
  rw [padLeft, value_eq_ofDigitChars, Nat.ofDigitChars_append, Nat.ofDigitChars_replicate_zero,
    Nat.mul_zero, value_eq_ofDigitChars]

theorem length_padLeft (h : ds.length ≤ width) : (padLeft width ds).length = width := by
  rw [padLeft, List.length_append, List.length_replicate]
  omega

theorem isDigit_of_mem_padLeft (h : ∀ c ∈ ds, c.isDigit = true) :
    ∀ c ∈ padLeft width ds, c.isDigit = true := by
  intro c hc
  rcases List.mem_append.1 hc with hc | hc
  · rw [List.eq_of_mem_replicate hc]
    rfl
  · exact h c hc

/-- With zeros in front, the digits of a number are those of any text that denotes it. -/
theorem padLeft_toDigits_value (hds : ∀ c ∈ ds, c.isDigit = true) (hpos : 0 < width)
    (hlength : ds.length ≤ width) : padLeft width (Nat.toDigits 10 (value ds)) = padLeft width ds := by
  have hlt : value ds < 10 ^ width :=
    Nat.lt_of_lt_of_le (value_lt hds) (Nat.pow_le_pow_right (by decide) hlength)
  have hshort : (Nat.toDigits 10 (value ds)).length ≤ width :=
    (Nat.length_toDigits_le_iff (by decide) hpos).2 hlt
  refine eq_of_value_eq (isDigit_of_mem_padLeft fun c hc => ?_) (isDigit_of_mem_padLeft hds) ?_ ?_
  · exact Nat.isDigit_of_mem_toDigits (by decide) (by decide) hc
  · rw [length_padLeft hshort, length_padLeft hlength]
  · rw [value_padLeft, value_padLeft, value_toDigits]

end MeterBridge.Digit
