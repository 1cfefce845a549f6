import MeterBridge.Hex
import MeterBridge.Proofs.Lines

/-!
# Hexadecimal text read

Digits spell bytes in either case (`Hex.Spells`): a digit has the same value in both, so that whatever the
case of each digit is, the bytes are read. Both of the writers spell.

* `Hex.forall_mem_digits` — what holds of sixteen digits holds of all digits of bytes.
* `Hex.Spells.decodeDigits` — what is spelled is read.
-/

namespace MeterBridge

/-! ### Case -/

/-- A small letter stands 32 places behind its capital. -/
theorem Text.toNat_toUpper (c : Char) :
    c.toUpper.toNat = if 97 ≤ c.toNat ∧ c.toNat ≤ 122 then c.toNat - 32 else c.toNat := by
  have hval : c.val.toNat = c.toNat := rfl
  have hshift : ('A'.val - 'a'.val).toNat = 4294967264 := by decide
  unfold Char.toUpper
  split
  · next h =>
    simp only [UInt32.le_iff_toNat_le, hval] at h
    have hsmall : 97 ≤ c.toNat ∧ c.toNat ≤ 122 := h
    rw [if_pos hsmall]
    show (c.val + ('A'.val - 'a'.val)).toNat = _
    rw [UInt32.toNat_add, hval, hshift]
    omega
  · next h =>
    simp only [UInt32.le_iff_toNat_le, hval] at h
    exact (if_neg h).symm

/-- A digit has the same value in either case. -/
theorem Digit.hexValue?_toUpper (c : Char) : hexValue? c.toUpper = hexValue? c := by
  unfold hexValue?
  simp only [Text.toNat_toUpper]
  by_cases hsmall : 97 ≤ c.toNat ∧ c.toNat ≤ 122
  · grind
  · rw [if_neg hsmall]

/-- A digit is one of ten digits and six letters in two cases. -/
theorem Digit.range_of_isHex {c : Char} (h : isHex c = true) :
    (48 ≤ c.toNat ∧ c.toNat ≤ 57) ∨ (65 ≤ c.toNat ∧ c.toNat ≤ 70) ∨ (97 ≤ c.toNat ∧ c.toNat ≤ 102) := by
  unfold isHex hexValue? at h
  simp only at h
  split at h
  · next hdecimal => exact .inl hdecimal
  split at h
  · next hcapital => exact .inr (.inl hcapital)
  split at h
  · next hsmall => exact .inr (.inr hsmall)
  · cases h

/-- A digit is not blank. -/
theorem Digit.isBlank_eq_false {c : Char} (h : isHex c = true) : Text.isBlank c = false := by
  have hrange := range_of_isHex h
  simp only [Text.isBlank, Bool.or_eq_false_iff, Bool.and_eq_false_iff, decide_eq_false_iff_not,
    beq_eq_false_iff_ne]
  omega

namespace Hex

/-! ### Digits of bytes -/

/-- What holds of the sixteen digits of a writer holds of all digits that it writes. -/
theorem forall_mem_flatMap_pair {p : Char → Prop} {digit : Nat → Char} (h : ∀ k < 16, p (digit k))
    (bs : Bytes) : ∀ c ∈ bs.flatMap (pair digit), p c := by
  intro c hc
  obtain ⟨b, -, hc⟩ := List.mem_flatMap.1 hc
  have hb := b.toNat_lt
  simp only [pair, List.mem_cons, List.not_mem_nil, or_false] at hc
  rcases hc with rfl | rfl
  · exact h _ (by omega)
  · exact h _ (by omega)

/-- A digit of bytes is one of sixteen. -/
theorem forall_mem_digits {p : Char → Prop} (h : ∀ k < 16, p (Digit.upperHex k)) (bs : Bytes) :
    ∀ c ∈ digits bs, p c := forall_mem_flatMap_pair h bs

theorem digits_ne_nil {bs : Bytes} (h : bs ≠ []) : digits bs ≠ [] := by
  cases bs with
  | nil => exact absurd rfl h
  | cons b bs => simp [digits, pair]

theorem isHex_of_mem_digits (bs : Bytes) : ∀ c ∈ digits bs, Digit.isHex c = true :=
  forall_mem_digits (by decide) bs

theorem length_digits (bs : Bytes) : (digits bs).length = 2 * bs.length := by
  induction bs with
  | nil => rfl
  | cons b bs ih =>
    rw [digits] at ih ⊢
    rw [List.flatMap_cons, List.length_append, ih, List.length_cons]
    simp only [pair, List.length_cons, List.length_nil]
    omega

/-! ### Spelling -/

/-- The digits are those of the bytes, each in either case. -/
def Spells (cs : List Char) (bs : Bytes) : Prop := cs.map Char.toUpper = digits bs

instance (cs : List Char) (bs : Bytes) : Decidable (Spells cs bs) :=
  inferInstanceAs (Decidable (_ = _))

variable {cs : List Char} {bs : Bytes}

theorem spells_digits (bs : Bytes) : Spells (digits bs) bs := by
  have hupper : ∀ c ∈ digits bs, c.toUpper = c := forall_mem_digits (by decide) bs
  exact (List.map_congr_left hupper).trans (List.map_id _)

theorem spells_lowerDigits (bs : Bytes) : Spells (lowerDigits bs) bs := by
  have hpair : ∀ b : UInt8, (pair Digit.lowerHex b).map Char.toUpper = pair Digit.upperHex b := by
    intro b
    have hb := b.toNat_lt
    have hdigit : ∀ k < 16, (Digit.lowerHex k).toUpper = Digit.upperHex k := by decide
    rw [pair, List.map_cons, List.map_singleton, hdigit _ (by omega), hdigit _ (by omega), pair]
  rw [Spells, lowerDigits, List.map_flatMap, funext hpair, digits]

/-- Reading pairs does not mind the case. -/
theorem pairs?_map_toUpper (cs : List Char) : pairs? (cs.map Char.toUpper) = pairs? cs := by
  fun_induction pairs? cs with
  | case1 => rfl
  | case2 => rfl
  | case3 high low rest ih =>
    simp only [List.map_cons, pairs?, Digit.hexValue?_toUpper, ih]

/-- Digits take one byte each, as all ASCII does. -/
theorem utf8Length_eq_length (h : ∀ c ∈ cs, Digit.isHex c = true) : utf8Length cs = cs.length := by
  have hascii : ∀ c ∈ cs, c.toNat < 128 := by
    intro c hc
    have hrange := Digit.range_of_isHex (h c hc)
    omega
  have hbytes : utf8Length cs = (Text.utf8 cs).length := rfl
  rw [hbytes, Text.utf8_eq_map hascii, List.length_map]

namespace Spells

theorem pairs? (h : Spells cs bs) : Hex.pairs? cs = some bs := by
  rw [← pairs?_map_toUpper, h, pairs?_digits]

/-- Only digits spell. -/
theorem isHex (h : Spells cs bs) : ∀ c ∈ cs, Digit.isHex c = true := by
  intro c hc
  have hmem : c.toUpper ∈ digits bs := h ▸ List.mem_map_of_mem hc
  have hupper := isHex_of_mem_digits bs _ hmem
  rwa [Digit.isHex, Digit.hexValue?_toUpper] at hupper

theorem length (h : Spells cs bs) : cs.length = 2 * bs.length := by
  rw [← length_digits, ← h, List.length_map]

theorem ne_nil (h : Spells cs bs) (hbs : bs ≠ []) : cs ≠ [] := by
  rintro rfl
  exact digits_ne_nil hbs h.symm

/-- **What is spelled is read.** -/
theorem decodeDigits (h : Spells cs bs) (hbs : bs ≠ []) : Hex.decodeDigits cs = .ok bs := by
  have hnonempty : cs.isEmpty = false := by
    rw [List.isEmpty_eq_false_iff]
    exact h.ne_nil hbs
  have heven : ¬ utf8Length cs % 2 = 1 := by
    rw [utf8Length_eq_length h.isHex, h.length]
    omega
  rw [Hex.decodeDigits, hnonempty, if_neg Bool.false_ne_true, if_neg heven, h.pairs?]

/-- So it is if blanks are passed over. -/
theorem decode {text : String} (h : Spells text.toList bs) (hbs : bs ≠ []) : Hex.decode text = .ok bs := by
  have hfilter : (text.toList.filter fun c => !Text.isBlank c) = text.toList := by
    rw [List.filter_eq_self]
    intro c hc
    rw [Digit.isBlank_eq_false (h.isHex c hc)]
    rfl
  rw [Hex.decode, hfilter, h.decodeDigits hbs]

end Spells

end Hex

end MeterBridge
