import MeterBridge.Proofs.Codec
import MeterBridge.Proofs.Line

/-!
# The grammar of input lines

Which lines carry a payload, and which payload, without the reader: blanks around the line are taken away;
what is left holds no mark of an echo and does not begin with a date; its first field holds digits between
bars, two on either side or one, or there is no field and all of it is digits; and the digits, evenly many,
are those of the payload. Digits cannot go on behind a bar, so that those between bars are all that follow
the first bars.

* `digits?_eq_some_iff` — the digits of a line are those that it carries by the grammar.
* `payload?_grammar` — a line has a payload if and only if the grammar gives it one, and all formats obey
  the grammar.
-/

namespace MeterBridge.Line

variable {mark text rest ds : List Char} {bs : Bytes}

/-! ### Marks -/

/-- This follows the first occurrence of a mark. -/
def IsBehindFirst (mark text rest : List Char) : Prop :=
  ∃ front, text = front ++ (mark ++ rest) ∧
    ∀ front' rest', text = front' ++ (mark ++ rest') → front.length ≤ front'.length

theorem isBehindFirst_nil (h : mark ≠ []) : ¬ IsBehindFirst mark [] rest := by
  rintro ⟨front, htext, -⟩
  simp [h] at htext

/-- A mark at the front is the first one. -/
theorem isBehindFirst_append {rest' : List Char} :
    IsBehindFirst mark (mark ++ rest) rest' ↔ rest' = rest := by
  constructor
  · rintro ⟨front, htext, hfirst⟩
    have hfront : front = [] := List.eq_nil_of_length_eq_zero (Nat.le_zero.1 (hfirst [] rest rfl))
    rw [hfront, List.nil_append, List.append_cancel_left_eq] at htext
    exact htext.symm
  · rintro rfl
    exact ⟨[], rfl, fun _ _ _ => Nat.zero_le _⟩

/-- Where there is none at the front, a character in front makes no difference. -/
theorem isBehindFirst_cons {c : Char} (h : ¬ mark <+: c :: text) :
    IsBehindFirst mark (c :: text) rest ↔ IsBehindFirst mark text rest := by
  have hcons : ∀ front rest', c :: text = front ++ (mark ++ rest') →
      ∃ front', front = c :: front' ∧ text = front' ++ (mark ++ rest') := by
    intro front rest' htext
    cases front with
    | nil => exact absurd ⟨rest', htext.symm⟩ h
    | cons d front' =>
      obtain ⟨rfl, htail⟩ := List.cons.inj htext
      exact ⟨front', rfl, htail⟩
  constructor
  · rintro ⟨front, htext, hfirst⟩
    obtain ⟨front, rfl, htail⟩ := hcons front rest htext
    refine ⟨front, htail, fun front' rest' h' => ?_⟩
    have hle := hfirst (c :: front') rest' (congrArg (c :: ·) h')
    exact Nat.le_of_succ_le_succ hle
  · rintro ⟨front, rfl, hfirst⟩
    refine ⟨c :: front, rfl, fun front' rest' h' => ?_⟩
    obtain ⟨front', rfl, htail⟩ := hcons front' rest' h'
    exact Nat.succ_le_succ (hfirst front' rest' htail)

theorem after?_eq_some_iff (h : mark ≠ []) : after? mark text = some rest ↔ IsBehindFirst mark text rest := by
  induction text with
  | nil => simp [after?, h, isBehindFirst_nil h]
  | cons c text ih =>
    by_cases hleading : mark <+: c :: text
    · obtain ⟨behind, hbehind⟩ := hleading
      rw [← hbehind, after?_append h, isBehindFirst_append, Option.some.injEq, eq_comm]
    · have hfalse : mark.isPrefixOf (c :: text) = false := by
        rw [Bool.eq_false_iff]
        exact fun htrue => hleading (List.isPrefixOf_iff_prefix.1 htrue)
      rw [after?, hfalse, if_neg Bool.false_ne_true, ih, isBehindFirst_cons hleading]

theorem after?_eq_none_iff (h : mark ≠ []) : after? mark text = none ↔ ¬ mark <:+: text := by
  induction text with
  | nil => simp [after?, h]
  | cons c text ih =>
    rw [after?, List.infix_cons_iff, not_or, ← ih]
    by_cases hleading : mark <+: c :: text
    · simp [List.isPrefixOf_iff_prefix.2 hleading, hleading]
    · have hfalse : mark.isPrefixOf (c :: text) = false := by
        rw [Bool.eq_false_iff]
        exact fun htrue => hleading (List.isPrefixOf_iff_prefix.1 htrue)
      simp [hfalse, hleading]

/-! ### Echoes -/

/-- The text begins with a date: four digits, a hyphen, two digits, a hyphen. -/
def IsDated (text : List Char) : Prop :=
  ∃ year month rest, text = year ++ '-' :: (month ++ '-' :: rest) ∧ year.length = 4 ∧ month.length = 2 ∧
    ∀ c ∈ year ++ month, c.isDigit = true

theorem beginsWithDate_iff : beginsWithDate text = true ↔ IsDated text := by
  constructor
  · intro h
    unfold beginsWithDate at h
    split at h
    · next a b c d e f rest =>
      exact ⟨[a, b, c, d], [e, f], rest, rfl, rfl, rfl, List.all_eq_true.1 h⟩
    · cases h
  · rintro ⟨year, month, rest, rfl, hyear, hmonth, hdigits⟩
    match year, month, hyear, hmonth, hdigits with
    | [_, _, _, _], [_, _], _, _, hdigits => exact List.all_eq_true.2 hdigits

theorem isEcho_iff : isEcho text = true ↔ echoMark <:+: text ∨ IsDated text := by
  rw [isEcho, Bool.or_eq_true, beginsWithDate_iff, Option.isSome_iff_ne_none, ne_eq,
    after?_eq_none_iff (by decide), not_not]

/-! ### Digits -/

/-- A text of digits, one at least. -/
def IsDigits (ds : List Char) : Prop := ds ≠ [] ∧ ∀ c ∈ ds, Digit.isHex c = true

/-- What stands between two bars of one kind at the front of a text. -/
theorem enclosed?_eq_some_iff {c : Char} (hc : Digit.isHex c = false) :
    enclosed? (c :: mark) text = some ds ↔
      IsDigits ds ∧ ∃ rest, text = (c :: mark) ++ (ds ++ ((c :: mark) ++ rest)) := by
  constructor
  · intro h
    simp only [enclosed?, Option.ite_none_right_eq_some, Bool.and_eq_true, List.isPrefixOf_iff_prefix] at h
    obtain ⟨⟨body, rfl⟩, ⟨hne, rest, hrest⟩, hds⟩ := h
    rw [List.drop_left] at hne hrest hds
    obtain rfl := Option.some.inj hds
    refine ⟨⟨by simpa using hne, fun d hd => List.mem_takeWhile_imp hd⟩, rest, ?_⟩
    rw [hrest, List.takeWhile_append_dropWhile]
  · rintro ⟨⟨hne, hhex⟩, rest, rfl⟩
    exact enclosed?_append hne hhex hc mark rest

/-- The text carries these digits. -/
inductive Carries : List Char → List Char → Prop where
  /-- Behind the first field, between two bars and two bars. -/
  | doubleBars {text ds : List Char} (rest : List Char) : IsDigits ds →
      IsBehindFirst fieldMark text (['|', '|'] ++ (ds ++ (['|', '|'] ++ rest))) → Carries text ds
  /-- Behind the first field, between a bar and a bar. -/
  | singleBars {text ds : List Char} (rest : List Char) : IsDigits ds →
      IsBehindFirst fieldMark text (['|'] ++ (ds ++ (['|'] ++ rest))) → Carries text ds
  /-- There is no field, and all of it is digits. -/
  | bare {ds : List Char} : IsDigits ds → ¬ fieldMark <:+: ds → Carries ds ds

theorem Carries.isDigits (h : Carries text ds) : IsDigits ds := by
  cases h <;> assumption

/-- **The digits of a line**, by the grammar. -/
theorem digits?_eq_some_iff : digits? text = some ds ↔ Carries text ds := by
  have hmark : fieldMark ≠ [] := by decide
  have hbar : Digit.isHex '|' = false := by decide
  constructor
  · intro h
    rw [digits?] at h
    cases hfield : after? fieldMark text with
    | some field =>
      rw [after?_eq_some_iff hmark] at hfield
      rw [(after?_eq_some_iff hmark).2 hfield, Option.or_eq_some_iff] at h
      rcases h with h | ⟨-, h⟩
      · obtain ⟨hds, rest, rfl⟩ := (enclosed?_eq_some_iff hbar).1 h
        exact .doubleBars rest hds hfield
      · obtain ⟨hds, rest, rfl⟩ := (enclosed?_eq_some_iff hbar).1 h
        exact .singleBars rest hds hfield
    | none =>
      rw [hfield, Option.ite_none_right_eq_some] at h
      obtain ⟨hdigits, hds⟩ := h
      obtain rfl := Option.some.inj hds
      exact .bare (by simpa [IsDigits] using hdigits) ((after?_eq_none_iff hmark).1 hfield)
  · intro h
    cases h with
    | doubleBars rest hds hfield =>
      rw [digits?, (after?_eq_some_iff hmark).2 hfield]
      exact Option.or_eq_some_iff.2 (.inl ((enclosed?_eq_some_iff hbar).2 ⟨hds, _, rfl⟩))
    | singleBars rest hds hfield =>
      -- The bar is not doubled, since a digit comes next.
      have hsingle : enclosed? ['|', '|'] (['|'] ++ (ds ++ (['|'] ++ rest))) = none := by
        obtain ⟨d, ds, rfl⟩ := List.exists_cons_of_ne_nil hds.1
        refine enclosed?_eq_none (fun hd => ?_) _
        rw [← hd, hds.2 d List.mem_cons_self] at hbar
        cases hbar
      rw [digits?, (after?_eq_some_iff hmark).2 hfield]
      exact Option.or_eq_some_iff.2 (.inr ⟨hsingle, (enclosed?_eq_some_iff hbar).2 ⟨hds, _, rfl⟩⟩)
    | bare hds hfield =>
      rw [digits?, (after?_eq_none_iff hmark).2 hfield]
      exact if_pos (by simpa [IsDigits] using hds)

/-! ### Payloads -/

/-- The text, without blanks around it, carries this payload. -/
structure IsPayload (text : List Char) (bs : Bytes) : Prop where
  /-- It is no echo by its words. -/
  not_marked : ¬ echoMark <:+: text
  /-- It is no echo by its beginning. -/
  not_dated : ¬ IsDated text
  /-- It carries digits, evenly many, of these bytes. -/
  digits : ∃ ds, Carries text ds ∧ ds.length % 2 = 0 ∧ Hex.Spells ds bs

theorem payload?_eq_some_iff {line : String} :
    payload? line = some bs ↔ IsPayload (Text.trim line.toList) bs := by
  have hread : ∀ text, (∃ ds, digits? text = some ds ∧ Hex.decodeDigits ds = .ok bs) ↔
      ∃ ds, Carries text ds ∧ ds.length % 2 = 0 ∧ Hex.Spells ds bs := by
    intro text
    refine exists_congr fun ds => ?_
    rw [digits?_eq_some_iff, Hex.decodeDigits_eq_ok_iff]
    refine and_congr_right fun hcarries => ?_
    constructor
    · rintro ⟨-, hspells⟩
      exact ⟨by rw [hspells.length]; omega, hspells⟩
    · rintro ⟨-, hspells⟩
      exact ⟨hcarries.isDigits.1, hspells⟩
  rw [payload?, read]
  generalize Text.trim line.toList = text
  cases hecho : isEcho text with
  | true =>
    have hnot : ¬ IsPayload text bs := fun h => (isEcho_iff.1 hecho).elim h.not_marked h.not_dated
    simp [Reading.payload?, hnot]
  | false =>
    have hclear : ¬ (echoMark <:+: text ∨ IsDated text) := by
      rw [← isEcho_iff, hecho]
      exact Bool.false_ne_true
    obtain ⟨hmarked, hdated⟩ := not_or.1 hclear
    have hpayload : IsPayload text bs ↔ ∃ ds, digits? text = some ds ∧ Hex.decodeDigits ds = .ok bs :=
      ⟨fun h => (hread text).2 h.digits, fun h => ⟨hmarked, hdated, (hread text).1 h⟩⟩
    rw [hpayload]
    cases hdigits : digits? text with
    | none => simp [Reading.payload?]
    | some ds => cases hdecode : Hex.decodeDigits ds <;> simp [Reading.payload?, hdecode]

/-- **The grammar of lines.** A line has a payload if and only if the text without the blanks around it
carries this payload. In particular any bytes, one at least, are the payload of their line in every
format. -/
theorem payload?_grammar (line : String) (bs : Bytes) :
    (payload? line = some bs ↔ ∃ text, Text.Trims line.toList text ∧ IsPayload text bs) ∧
      (bs ≠ [] → ∀ format : LineFormat, payload? (format.frame (Hex.encode bs)) = some bs) := by
  refine ⟨?_, fun hbs format => ?_⟩
  · simp only [payload?_eq_some_iff, Text.trims_iff, exists_eq_left']
  · have hfeed : Text.trim (format.frame (Hex.encode bs)).toList =
        Text.trim (String.ofList (format.body (Hex.digits bs))).toList := by
      rw [format.toList_frame, String.toList_ofList, Text.trim_append_of_isBlank (by decide)]
    rw [payload?_congr hfeed, payload?, format.read_body hbs, Reading.payload?]

/-- A line with blanks of other scripts around it, something in front of its field, and a second field. -/
def noisyLine : String := "\u00a0\u3000rx 7: telegram=|aBcD| telegram=||00||\r"

theorem payload?_grammar_noisyLine :
    (∃ text, Text.Trims noisyLine.toList text ∧ IsPayload text [0xAB, 0xCD]) ∧
      ∀ format : LineFormat, payload? (format.frame (Hex.encode [0xAB, 0xCD])) = some [0xAB, 0xCD] :=
  ⟨(payload?_grammar noisyLine [0xAB, 0xCD]).1.1 (by decide),
    (payload?_grammar noisyLine [0xAB, 0xCD]).2 (List.cons_ne_nil _ _)⟩

/-- The first field counts, also if it holds nothing. -/
example : payload? "telegram=||00| telegram=|AB|" = none := by decide

end MeterBridge.Line
