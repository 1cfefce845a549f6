import MeterBridge.Json.StringLiteral
import Mathlib.Data.Char

/-!
# Reading string literals back

A literal is spelled right (`IsSpelled`) if no quote and no control character stands in it and each
backslash begins an escape. `encode` spells right whatever the text is, and `decode` gives the text back.
Both follow from the three forms that a character takes in a literal (`encodeChar_forms`): a short escape,
the code of a control character, or the character itself.

* `isSpelled_encode` — what is written is spelled right.
* `decode_encode` — it reads back as the text.
-/

namespace MeterBridge.Json.StringLiteral

/-- The literal obeys the grammar of strings; its escapes may still name no character. -/
inductive IsSpelled : List Char → Prop where
  /-- The empty string. -/
  | nil : IsSpelled []
  /-- A character that stands for itself. -/
  | plain {c : Char} {rest : List Char} (hquote : c ≠ '"') (hescape : c ≠ '\\') (hcode : 0x20 ≤ c.toNat)
      (hrest : IsSpelled rest) : IsSpelled (c :: rest)
  /-- An escape of one letter. -/
  | short {c : Char} {rest : List Char} (hc : (shortEscape? c).isSome) (hrest : IsSpelled rest) :
      IsSpelled ('\\' :: c :: rest)
  /-- An escape of four digits. -/
  | code {a b c d : Char} {rest : List Char} (hunit : (unit? a b c d).isSome) (hrest : IsSpelled rest) :
      IsSpelled ('\\' :: 'u' :: a :: b :: c :: d :: rest)

/-! ### Characters -/

/-- A digit has a printable character. -/
theorem le_toNat_of_hexValue? {c : Char} (h : (Digit.hexValue? c).isSome) : 0x20 ≤ c.toNat := by
  by_contra hlt
  have hnone : Digit.hexValue? c = none := by
    unfold Digit.hexValue?
    simp only
    rw [if_neg (by omega), if_neg (by omega), if_neg (by omega)]
  rw [hnone] at h
  cases h

/-- A code is made of digits. -/
theorem isSome_hexValue?_of_unit? {a b c d : Char} (h : (unit? a b c d).isSome) :
    (Digit.hexValue? a).isSome ∧ (Digit.hexValue? b).isSome ∧ (Digit.hexValue? c).isSome ∧
      (Digit.hexValue? d).isSome := by
  obtain ⟨unit, hunit⟩ := Option.isSome_iff_exists.1 h
  simp only [unit?, Option.bind_eq_bind, Option.bind_eq_some_iff] at hunit
  obtain ⟨_, ha, _, hb, _, hc, _, hd, -⟩ := hunit
  exact ⟨ha ▸ rfl, hb ▸ rfl, hc ▸ rfl, hd ▸ rfl⟩

/-- The letters of short escapes are printable. -/
theorem le_toNat_of_shortEscape? {c : Char} (h : (shortEscape? c).isSome) : 0x20 ≤ c.toNat := by
  by_contra hlt
  have hne : ∀ letter : Char, 0x20 ≤ letter.toNat → c ≠ letter := by
    rintro letter hletter rfl
    exact hlt hletter
  have hnone : shortEscape? c = none := by
    rw [shortEscape?, if_neg (hne _ (by decide)), if_neg (hne _ (by decide)), if_neg (hne _ (by decide)),
      if_neg (hne _ (by decide)), if_neg (hne _ (by decide)), if_neg (hne _ (by decide)),
      if_neg (hne _ (by decide)), if_neg (hne _ (by decide))]
  rw [hnone] at h
  cases h

/-- No control character stands in a literal that is spelled right. -/
theorem IsSpelled.le_toNat {literal : List Char} (h : IsSpelled literal) :
    ∀ c ∈ literal, 0x20 ≤ c.toNat := by
  induction h with
  | nil => exact List.forall_mem_nil _
  | plain _ _ hcode _ ih => exact List.forall_mem_cons.2 ⟨hcode, ih⟩
  | short hc _ ih =>
    exact List.forall_mem_cons.2 ⟨by decide, List.forall_mem_cons.2 ⟨le_toNat_of_shortEscape? hc, ih⟩⟩
  | code hunit _ ih =>
    obtain ⟨ha, hb, hc, hd⟩ := isSome_hexValue?_of_unit? hunit
    simp only [List.forall_mem_cons]
    exact ⟨by decide, by decide, le_toNat_of_hexValue? ha, le_toNat_of_hexValue? hb,
      le_toNat_of_hexValue? hc, le_toNat_of_hexValue? hd, ih⟩

/-! ### Writing and reading one character -/

/-- A character is written as a short escape, as the code of a control character, or as it is. -/
theorem encodeChar_forms (c : Char) :
    (∃ letter, letter ≠ 'u' ∧ shortEscape? letter = some c ∧ encodeChar c = ['\\', letter]) ∨
      (c.toNat < 0x20 ∧ encodeChar c =
        ['\\', 'u', '0', '0', Digit.lowerHex (c.toNat / 16), Digit.lowerHex (c.toNat % 16)]) ∨
      (c ≠ '"' ∧ c ≠ '\\' ∧ 0x20 ≤ c.toNat ∧ encodeChar c = [c]) := by
  unfold encodeChar
  split
  · next hc => exact .inl ⟨'"', by decide, by rw [hc]; decide, rfl⟩
  split
  · next hc => exact .inl ⟨'\\', by decide, by rw [hc]; decide, rfl⟩
  split
  · next hc => exact .inl ⟨'b', by decide, by rw [hc]; decide, rfl⟩
  split
  · next hc => exact .inl ⟨'f', by decide, by rw [hc]; decide, rfl⟩
  split
  · next hc => exact .inl ⟨'n', by decide, by rw [hc]; decide, rfl⟩
  split
  · next hc => exact .inl ⟨'r', by decide, by rw [hc]; decide, rfl⟩
  split
  · next hc => exact .inl ⟨'t', by decide, by rw [hc]; decide, rfl⟩
  split
  · next hcode => exact .inr (.inl ⟨hcode, rfl⟩)
  · next hquote hescape _ _ _ _ _ hcode =>
    exact .inr (.inr ⟨hquote, hescape, Nat.le_of_not_lt hcode, rfl⟩)

/-- The code of a control character is that character's. -/
theorem unit?_control {n : Nat} (h : n < 0x20) :
    unit? '0' '0' (Digit.lowerHex (n / 16)) (Digit.lowerHex (n % 16)) = some n := by
  have hzero : Digit.hexValue? '0' = some 0 := by decide
  rw [unit?, hzero, Digit.hexValue?_lowerHex (by omega), Digit.hexValue?_lowerHex (by omega)]
  simp only [Option.bind_eq_bind, Option.bind_some, Option.pure_def, Option.some_inj]
  omega

theorem decode_encodeChar_append (c : Char) (rest : List Char) :
    decode (encodeChar c ++ rest) = (decode rest).map (c :: ·) := by
  rcases encodeChar_forms c with ⟨letter, hletter, hshort, hform⟩ | ⟨hcode, hform⟩ |
    ⟨-, hescape, -, hform⟩
  · rw [hform, List.cons_append, List.singleton_append, decode, hshort]
    · rfl
    · rintro _ _ _ _ _ rfl
      exact absurd rfl hletter
  · rw [hform]
    simp only [List.cons_append, List.nil_append, decode, unit?_control hcode, Option.bind_eq_bind,
      Option.bind_some]
    have hleading : isLeading c.toNat = false := by
      simp only [isLeading, Bool.and_eq_false_iff, decide_eq_false_iff_not]
      omega
    have htrailing : isTrailing c.toNat = false := by
      simp only [isTrailing, Bool.and_eq_false_iff, decide_eq_false_iff_not]
      omega
    rw [hleading, htrailing, Char.ofNat_toNat]
    rfl
  · rw [hform, List.singleton_append, decode]
    · rfl
    · exact fun _ _ _ _ _ h => absurd h hescape
    · exact fun _ _ h => absurd h hescape

/-! ### Writing and reading a text -/

/-- **What is written is spelled right.** -/
theorem isSpelled_encode (text : List Char) : IsSpelled (encode text) := by
  induction text with
  | nil => exact .nil
  | cons c text ih =>
    rw [encode, List.flatMap_cons]
    rcases encodeChar_forms c with ⟨letter, -, hshort, hform⟩ | ⟨hcode, hform⟩ |
      ⟨hquote, hescape, hcode, hform⟩
    · rw [hform]
      exact .short (hshort ▸ rfl) ih
    · rw [hform]
      exact .code ((unit?_control hcode) ▸ rfl) ih
    · rw [hform]
      exact .plain hquote hescape hcode ih

/-- **What is written reads back as the text.** -/
theorem decode_encode (text : List Char) : decode (encode text) = some text := by
  induction text with
  | nil => rfl
  | cons c text ih => rw [encode, List.flatMap_cons, decode_encodeChar_append, ← encode, ih, Option.map_some]

/-! ### Texts without escapes -/

/-- The text holds no quote, no backslash and no control character. -/
def IsPlain (text : List Char) : Prop := ∀ c ∈ text, c ≠ '"' ∧ c ≠ '\\' ∧ 0x20 ≤ c.toNat

instance (text : List Char) : Decidable (IsPlain text) := List.decidableBAll _ text

/-- A plain text is a literal. -/
theorem IsPlain.isSpelled {text : List Char} (h : IsPlain text) : IsSpelled text := by
  induction text with
  | nil => exact .nil
  | cons c text ih =>
    obtain ⟨⟨hquote, hescape, hcode⟩, htext⟩ := List.forall_mem_cons.1 h
    exact .plain hquote hescape hcode (ih htext)

/-- So is a key without escapes. -/
theorem isSpelled_key {key : String} (h : IsPlain key.toList) : IsSpelled key.toList := h.isSpelled

/-- A plain text reads as it stands. -/
theorem IsPlain.decode_eq {text : List Char} (h : IsPlain text) : decode text = some text := by
  induction text with
  | nil => rfl
  | cons c text ih =>
    obtain ⟨⟨-, hescape, -⟩, htext⟩ := List.forall_mem_cons.1 h
    rw [decode, ih htext]
    · rfl
    · exact fun _ _ _ _ _ heq => absurd heq hescape
    · exact fun _ _ heq => absurd heq hescape

end MeterBridge.Json.StringLiteral
