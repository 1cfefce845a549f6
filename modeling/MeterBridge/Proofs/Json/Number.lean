import MeterBridge.Json.Decode
import MeterBridge.Proofs.Digit
import Mathlib.Data.Nat.Digits.Defs
import Mathlib.Data.List.TakeWhile

/-!
# Number literals

A literal that obeys the grammar is a sign, digits, and perhaps a fraction and a power of ten
(`exists_pieces`), so that it begins as a number does and holds only characters that can stand in a number.
The decimal digits of a natural number are such a literal, and they read back as the number.

* `inNumber_of_isWellFormed`, `begins_of_isWellFormed` — what a scanner needs to know of a literal.
* `natural?_toDigits` — the digits of a number read back.
* `isFinite_toDigits` — those of a number of 64 bits are in the range of doubles.
-/

namespace MeterBridge.Json.Number

variable {literal digits cs : List Char}

/-! ### The pieces of a literal -/

theorem isDigit_of_isWhole (h : isWhole digits) : ∀ c ∈ digits, c.isDigit := by
  fun_cases isWhole digits with
  | case1 => exact List.forall_mem_nil _
  | case2 rest =>
    rw [isWhole, Bool.and_eq_true] at h
    exact List.all_eq_true.1 h.2
  | case3 _ hnil hzero =>
    rw [isWhole] at h
    · exact List.all_eq_true.1 h
    · exact hnil
    · exact hzero

theorem ne_nil_of_isWhole (h : isWhole digits) : digits ≠ [] := by
  rintro rfl
  cases h

theorem isDigit_of_isDigits (h : isDigits digits) : ∀ c ∈ digits, c.isDigit := by
  rw [isDigits, Bool.and_eq_true] at h
  exact List.all_eq_true.1 h.2

/-- What stands in front of a mark, and the mark with what stands behind it. -/
theorem exists_split (isMark : Char → Bool) (cs : List Char) :
    ∃ front back, cs = front ++ back ∧ cs.takeWhile (!isMark ·) = front ∧
      cs.dropWhile (!isMark ·) = back ∧ (back = [] ∨ ∃ mark rest, back = mark :: rest ∧ isMark mark) := by
  refine ⟨_, _, List.takeWhile_append_dropWhile.symm, rfl, rfl, ?_⟩
  cases hback : cs.dropWhile (!isMark ·) with
  | nil => exact .inl rfl
  | cons mark rest =>
    have hmark := List.head?_dropWhile_not (!isMark ·) cs
    rw [hback] at hmark
    exact .inr ⟨mark, rest, rfl, by simpa using hmark⟩

/-- A literal is a sign, digits, and perhaps a fraction and a power of ten. -/
theorem exists_pieces (h : isWellFormed literal) : ∃ sign whole point power,
    literal = sign ++ (whole ++ point ++ power) ∧ (sign = [] ∨ sign = ['-']) ∧ isWhole whole ∧
      (point = [] ∨ ∃ fraction, point = '.' :: fraction ∧ isDigits fraction) ∧
      (power = [] ∨ ∃ mark rest, power = mark :: rest ∧ (mark = 'e' ∨ mark = 'E') ∧
        (exponent? rest).isSome) := by
  unfold isWellFormed parts? at h
  split at h
  next negative unsigned hunsigned =>
  obtain ⟨sign, hliteral, hsign⟩ :
      ∃ sign, literal = sign ++ unsigned ∧ (sign = [] ∨ sign = ['-']) := by
    split at hunsigned
    · cases hunsigned
      exact ⟨['-'], rfl, .inr rfl⟩
    · cases hunsigned
      exact ⟨[], rfl, .inl rfl⟩
  obtain ⟨mantissa, power, rfl, hmantissa, hpower, hmark⟩ :=
    exists_split (fun c => c == 'e' || c == 'E') unsigned
  obtain ⟨whole, point, rfl, hwhole, hpoint, hdot⟩ := exists_split (· == '.') mantissa
  refine ⟨sign, whole, point, power, hliteral, hsign, ?_⟩
  simp only [hmantissa, hpower, bne, hwhole, hpoint] at h
  -- Each piece is checked, so the literal is well formed only if each check has passed.
  have hwhole : isWhole whole := by
    by_contra hnot
    rw [Bool.not_eq_true] at hnot
    cases power with
    | nil => simp [hnot] at h
    | cons => simp [hnot] at h
  have hfraction : point = [] ∨ ∃ fraction, point = '.' :: fraction ∧ isDigits fraction := by
    rcases hdot with rfl | ⟨mark, fraction, rfl, hdot⟩
    · exact .inl rfl
    · refine .inr ⟨fraction, by rw [beq_iff_eq.1 hdot], ?_⟩
      by_contra hnot
      cases power with
      | nil => simp [hnot] at h
      | cons => simp [hnot] at h
  have hexponent : power = [] ∨ ∃ mark rest, power = mark :: rest ∧ (mark = 'e' ∨ mark = 'E') ∧
      (exponent? rest).isSome := by
    rcases hmark with rfl | ⟨mark, rest, rfl, hmark⟩
    · exact .inl rfl
    · refine .inr ⟨mark, rest, rfl, by simpa using hmark, ?_⟩
      by_contra hnot
      rw [Option.not_isSome_iff_eq_none] at hnot
      simp [hnot] at h
  exact ⟨hwhole, hfraction, hexponent⟩

/-! ### The characters of a literal -/

theorem inNumber_of_isDigit {c : Char} (h : c.isDigit) : Token.inNumber c := by
  simp [Token.inNumber, h]

theorem inNumber_of_exponent? (h : (exponent? cs).isSome) : ∀ c ∈ cs, Token.inNumber c := by
  revert h
  fun_cases exponent? cs with
  | case1 digits hdigits =>
    exact fun _ => List.forall_mem_cons.2 ⟨by decide, fun c hc =>
      inNumber_of_isDigit (isDigit_of_isDigits hdigits c hc)⟩
  | case3 digits hdigits =>
    exact fun _ => List.forall_mem_cons.2 ⟨by decide, fun c hc =>
      inNumber_of_isDigit (isDigit_of_isDigits hdigits c hc)⟩
  | case5 digits hplus hminus hdigits =>
    exact fun _ c hc => inNumber_of_isDigit (isDigit_of_isDigits hdigits c hc)
  | case2 | case4 | case6 => exact fun h => by cases h

/-- Only characters of numbers stand in a literal. -/
theorem inNumber_of_isWellFormed (h : isWellFormed literal) : ∀ c ∈ literal, Token.inNumber c := by
  obtain ⟨sign, whole, point, power, rfl, hsign, hwhole, hpoint, hpower⟩ := exists_pieces h
  simp only [List.forall_mem_append]
  refine ⟨?_, ⟨fun c hc => inNumber_of_isDigit (isDigit_of_isWhole hwhole c hc), ?_⟩, ?_⟩
  · rcases hsign with rfl | rfl
    · exact List.forall_mem_nil _
    · simp [Token.inNumber]
  · rcases hpoint with rfl | ⟨fraction, rfl, hfraction⟩
    · exact List.forall_mem_nil _
    · exact List.forall_mem_cons.2 ⟨by decide, fun c hc =>
        inNumber_of_isDigit (isDigit_of_isDigits hfraction c hc)⟩
  · rcases hpower with rfl | ⟨mark, rest, rfl, hmark, hexponent⟩
    · exact List.forall_mem_nil _
    · refine List.forall_mem_cons.2 ⟨?_, inNumber_of_exponent? hexponent⟩
      rcases hmark with rfl | rfl <;> decide

/-- A literal begins with a digit or a minus sign. -/
theorem begins_of_isWellFormed (h : isWellFormed literal) :
    ∃ first rest, literal = first :: rest ∧ (first.isDigit || first == '-') := by
  obtain ⟨sign, whole, point, power, rfl, hsign, hwhole, -, -⟩ := exists_pieces h
  rcases hsign with rfl | rfl
  · cases whole with
    | nil => exact absurd rfl (ne_nil_of_isWhole hwhole)
    | cons first rest =>
      refine ⟨first, rest ++ point ++ power, rfl, ?_⟩
      rw [isDigit_of_isWhole hwhole first List.mem_cons_self, Bool.true_or]
  · exact ⟨'-', _, rfl, rfl⟩

/-! ### The digits of a number -/

/-- The digits of a positive number do not begin with a zero. -/
theorem head?_toDigits_ne (n : Nat) (h : 0 < n) : (Nat.toDigits 10 n).head? ≠ some '0' := by
  induction n using Nat.strong_induction_on with
  | _ n ih =>
    rcases Nat.lt_or_ge n 10 with hlt | hge
    · rw [Nat.toDigits_of_lt_base hlt]
      exact (by decide : ∀ k < 10, 0 < k → [Nat.digitChar k].head? ≠ some '0') n hlt h
    · rw [Nat.toDigits_of_base_le (by decide) hge]
      have hhead := ih (n / 10) (by omega) (by omega)
      cases hdigits : Nat.toDigits 10 (n / 10) with
      | nil => exact absurd hdigits Nat.toDigits_ne_nil
      | cons first rest =>
        rw [hdigits] at hhead
        exact hhead

theorem isWhole_toDigits (n : Nat) : isWhole (Nat.toDigits 10 n) := by
  have hall : (Nat.toDigits 10 n).all Char.isDigit :=
    List.all_eq_true.2 fun c hc => Nat.isDigit_of_mem_toDigits (by decide) (by decide) hc
  rcases Nat.eq_zero_or_pos n with rfl | hpos
  · decide
  · have hhead := head?_toDigits_ne n hpos
    cases hdigits : Nat.toDigits 10 n with
    | nil => exact absurd hdigits Nat.toDigits_ne_nil
    | cons first rest =>
      rw [hdigits] at hall hhead
      rw [isWhole]
      · exact hall
      · exact fun h => nomatch h
      · rintro _ ⟨⟩
        exact hhead rfl

/-- **The digits of a number read back.** -/
theorem natural?_toDigits (n : Nat) : natural? (Nat.toDigits 10 n) = some n := by
  rw [natural?, if_pos (isWhole_toDigits n), Digit.value_toDigits]

/-- Plain digits have no sign, no fraction and no power of ten. -/
theorem parts?_of_isWhole (h : isWhole literal) :
    parts? literal = some { negative := false, whole := literal, fraction := [], exponent := 0 } := by
  have hdigit := isDigit_of_isWhole h
  have hmark : ∀ c ∈ literal, (!(c == 'e' || c == 'E')) = true := by
    rintro c hc
    by_cases hletter : c = 'e' ∨ c = 'E'
    · rcases hletter with rfl | rfl
      · exact absurd (hdigit _ hc) (by decide)
      · exact absurd (hdigit _ hc) (by decide)
    · simpa using hletter
  have hdot : ∀ c ∈ literal, (c != '.') = true := by
    intro c hc
    rw [bne_iff_ne]
    rintro rfl
    exact absurd (hdigit _ hc) (by decide)
  unfold parts?
  split
  next negative unsigned hunsigned =>
  obtain ⟨rfl, rfl⟩ : negative = false ∧ unsigned = literal := by
    split at hunsigned
    · exact absurd (hdigit '-' List.mem_cons_self) (by decide)
    · cases hunsigned
      exact ⟨rfl, rfl⟩
  simp only [List.takeWhile_eq_self_iff.2 hmark, List.dropWhile_eq_nil_iff.2 hmark,
    List.takeWhile_eq_self_iff.2 hdot, List.dropWhile_eq_nil_iff.2 hdot, h]
  rfl

/-- Plain digits are a literal. -/
theorem isWellFormed_of_isWhole (h : isWhole literal) : isWellFormed literal := by
  rw [isWellFormed, parts?_of_isWhole h, Option.isSome_some]

/-! ### The range of doubles -/

/-- Rounding at most doubles a number. -/
theorem roundToDouble_le (n : Nat) : roundToDouble n ≤ 2 * n := by
  rcases Nat.eq_zero_or_pos n with rfl | hpos
  · decide
  · have hunit : 2 ^ (n.log2 + 1 - 53) ≤ n :=
      Nat.le_trans (Nat.pow_le_pow_right (by decide) (by omega)) (Nat.log2_self_le (by omega))
    have hbelow := Nat.div_mul_le_self n (2 ^ (n.log2 + 1 - 53))
    have hnext : (n / 2 ^ (n.log2 + 1 - 53) + 1) * 2 ^ (n.log2 + 1 - 53) =
        n / 2 ^ (n.log2 + 1 - 53) * 2 ^ (n.log2 + 1 - 53) + 2 ^ (n.log2 + 1 - 53) := Nat.succ_mul _ _
    simp only [roundToDouble, Nat.pow_eq]
    split <;> omega

/-- More digits make no smaller number. -/
theorem le_foldl_digits (n : Nat) (ds : List Char) :
    n ≤ ds.foldl (fun n c => n * 10 + (c.toNat - 48)) n := by
  induction ds generalizing n with
  | nil => exact Nat.le_refl n
  | cons c ds ih =>
    have hnext := ih (n * 10 + (c.toNat - 48))
    rw [List.foldl_cons]
    omega

/-- Digits of a number of 64 bits all count. -/
theorem appendDigits_eq {significand : Nat} (count : Nat) {ds : List Char}
    (h : ds.foldl (fun n c => n * 10 + (c.toNat - 48)) significand < UInt64.size) :
    appendDigits significand count ds =
      (ds.foldl (fun n c => n * 10 + (c.toNat - 48)) significand, count + ds.length) := by
  induction ds generalizing significand count with
  | nil => rfl
  | cons c ds ih =>
    rw [List.foldl_cons] at h
    have hnext := Nat.lt_of_le_of_lt (le_foldl_digits _ ds) h
    rw [appendDigits, if_pos hnext, ih (count + 1) h, List.foldl_cons, List.length_cons, Nat.add_assoc,
      Nat.add_comm 1]

/-- **A number of 64 bits is in the range of doubles.** -/
theorem isFinite_toDigits {n : Nat} (h : n < UInt64.size) : isFinite (Nat.toDigits 10 n) := by
  have hvalue : (Nat.toDigits 10 n).foldl (fun n c => n * 10 + (c.toNat - 48)) 0 = n :=
    Digit.value_toDigits n
  have hwhole : appendDigits 0 0 (Nat.toDigits 10 n) = (n, 0 + (Nat.toDigits 10 n).length) := by
    rw [appendDigits_eq 0 (by rwa [hvalue]), hvalue]
  have hone : roundToDouble (Nat.pow 10 0) = 1 := by decide
  have hbound : 2 * UInt64.size ≤ overflowBound := by decide +kernel
  have hround : roundToDouble n < overflowBound := by
    have hle := roundToDouble_le n
    omega
  have hzero : (0 : Int) + (Nat.toDigits 10 n).length - (0 + (Nat.toDigits 10 n).length : Nat) = 0 := by
    omega
  rw [isFinite, parts?_of_isWhole (isWhole_toDigits n)]
  simp only [Parts.scaled, hwhole, appendDigits, hzero, Scaled.isFinite, Int.toNat_zero, hone, Nat.mul_one]
  simp [hround]

end MeterBridge.Json.Number
