import MeterBridge.Proofs.Hex
import Mathlib.Data.List.TakeWhile

/-!
# Hexadecimal codecs

There are two writers and two readers. What the strict reader says of a text depends only on what is left of
it without blanks: bytes whose uppercase digits these are, if it is not empty; else the first of three errors
that applies. Its length is counted in bytes of UTF-8, so that a single character that is no digit may have
an odd length, or an even one.

* `decodeDigits_eq_ok_iff`, `decodeDigits_eq_error_oddLength_iff`, `decodeDigits_eq_error_foreignByte_iff` —
  what is read, and when each error arises.
* `codecs_agree` — the readers undo the writers, and the lenient reader is the strict one on the digits of a
  text.
-/

namespace MeterBridge

/-- A digit in uppercase is the one that its value makes. -/
theorem Digit.toUpper_eq_upperHex {c : Char} {n : Nat} (h : hexValue? c = some n) :
    n < 16 ∧ c.toUpper = upperHex n := by
  have hdigit : ∀ k < 16, (upperHex k).toNat = if k < 10 then 48 + k else 55 + k := by decide
  have hrange := range_of_isHex (show isHex c = true by rw [isHex, h]; rfl)
  have hn : n < 16 ∧ c.toUpper.toNat = if n < 10 then 48 + n else 55 + n := by
    rw [Text.toNat_toUpper]
    unfold hexValue? at h
    grind
  exact ⟨hn.1, Char.toNat_inj.1 (by rw [hn.2, hdigit n hn.1])⟩

namespace Hex

variable {cs : List Char} {bs : Bytes}

/-! ### Pairs of digits -/

theorem spells_of_pairs? (h : pairs? cs = some bs) : Spells cs bs := by
  fun_induction pairs? cs generalizing bs with
  | case1 =>
    cases h
    rfl
  | case2 => cases h
  | case3 high low rest ih =>
    simp only [Option.bind_eq_bind, Option.bind_eq_some_iff, Option.pure_def, Option.some.injEq] at h
    obtain ⟨m, hm, n, hn, bytes, hbytes, rfl⟩ := h
    obtain ⟨hm16, hhigh⟩ := Digit.toUpper_eq_upperHex hm
    obtain ⟨hn16, hlow⟩ := Digit.toUpper_eq_upperHex hn
    have hbyte : (UInt8.ofNat (16 * m + n)).toNat = 16 * m + n :=
      UInt8.toNat_ofNat_of_lt' (show 16 * m + n < 256 by omega)
    have hpair : pair Digit.upperHex (UInt8.ofNat (16 * m + n)) = [high.toUpper, low.toUpper] := by
      rw [pair, hbyte, hhigh, hlow, show (16 * m + n) / 16 = m by omega,
        show (16 * m + n) % 16 = n by omega]
    have hrest : rest.map Char.toUpper = digits bytes := ih hbytes
    rw [Spells, List.map_cons, List.map_cons, hrest, digits, digits, List.flatMap_cons, hpair]
    rfl

/-- Pairs are read as the bytes that they spell. -/
theorem pairs?_eq_some_iff : pairs? cs = some bs ↔ Spells cs bs := ⟨spells_of_pairs?, Spells.pairs?⟩

/-- Digits, evenly many, spell bytes. -/
theorem exists_spells_iff :
    (∃ bs, Spells cs bs) ↔ (∀ c ∈ cs, Digit.isHex c = true) ∧ cs.length % 2 = 0 := by
  constructor
  · rintro ⟨bs, h⟩
    rw [h.length]
    exact ⟨h.isHex, by omega⟩
  · rintro ⟨hhex, heven⟩
    suffices hread : ∃ bs, pairs? cs = some bs from hread.imp fun _ => pairs?_eq_some_iff.1
    fun_induction pairs? cs with
    | case1 => exact ⟨[], rfl⟩
    | case2 => simp at heven
    | case3 high low rest ih =>
      simp only [List.forall_mem_cons, Digit.isHex, Option.isSome_iff_exists] at hhex
      obtain ⟨⟨m, hm⟩, ⟨n, hn⟩, hrest⟩ := hhex
      have hlength : rest.length % 2 = 0 := by
        simp only [List.length_cons] at heven
        omega
      obtain ⟨bytes, hbytes⟩ := ih (fun c hc => Option.isSome_iff_exists.2 (hrest c hc)) hlength
      exact ⟨UInt8.ofNat (16 * m + n) :: bytes, by simp [hm, hn, hbytes]⟩

/-! ### What is read, and what is not -/

/-- A text that is no pairs, although its length is even, has a first character that is no digit. -/
theorem exists_foreign (heven : utf8Length cs % 2 = 0) (h : pairs? cs = none) :
    ∃ front c rest, cs = front ++ c :: rest ∧ (∀ d ∈ front, Digit.isHex d = true) ∧
      Digit.isHex c = false := by
  cases hrest : cs.dropWhile Digit.isHex with
  | nil =>
    have hhex : ∀ c ∈ cs, Digit.isHex c = true := List.dropWhile_eq_nil_iff.1 hrest
    rw [utf8Length_eq_length hhex] at heven
    obtain ⟨bs, hbs⟩ := exists_spells_iff.2 ⟨hhex, heven⟩
    rw [hbs.pairs?] at h
    cases h
  | cons c rest =>
    have hstop := List.head?_dropWhile_not Digit.isHex cs
    rw [hrest] at hstop
    refine ⟨cs.takeWhile Digit.isHex, c, rest, ?_, fun d hd => List.mem_takeWhile_imp hd,
      by simpa using hstop⟩
    rw [← hrest, List.takeWhile_append_dropWhile]

/-- The fault is the first character that is no digit, if there is one. -/
theorem fault_eq {front rest : List Char} {c : Char} (hfront : ∀ d ∈ front, Digit.isHex d = true)
    (hc : Digit.isHex c = false) : fault (front ++ c :: rest) = .foreignByte (leadByte c) front.length := by
  have hstop : ¬ Digit.isHex c = true := by simp [hc]
  rw [fault, List.dropWhile_append_of_pos hfront, List.dropWhile_cons_of_neg hstop,
    List.takeWhile_append_of_pos hfront, List.takeWhile_cons_of_neg hstop, List.append_nil]

/-- What reading a text of digits comes to. -/
inductive Reads : List Char → Except Error Bytes → Prop where
  /-- There is nothing to read. -/
  | empty : Reads [] (.error .empty)
  /-- There are too many bytes for pairs, or too few. -/
  | odd {cs : List Char} : utf8Length cs % 2 = 1 → Reads cs (.error (.oddLength (utf8Length cs)))
  /-- The digits are those of bytes. -/
  | bytes {cs : List Char} {bs : Bytes} : cs ≠ [] → Spells cs bs → Reads cs (.ok bs)
  /-- A character is no digit. -/
  | foreign {front rest : List Char} {c : Char} : utf8Length (front ++ c :: rest) % 2 = 0 →
      (∀ d ∈ front, Digit.isHex d = true) → Digit.isHex c = false →
        Reads (front ++ c :: rest) (.error (.foreignByte (leadByte c) front.length))

theorem reads_decodeDigits (cs : List Char) : Reads cs (decodeDigits cs) := by
  rw [decodeDigits]
  split
  · next hempty =>
    rw [List.isEmpty_iff.1 hempty]
    exact .empty
  · next hempty =>
    split
    · next hodd => exact .odd hodd
    · next hodd =>
      have heven : utf8Length cs % 2 = 0 := by omega
      cases hpairs : pairs? cs with
      | some bs => exact .bytes (fun hnil => hempty (List.isEmpty_iff.2 hnil)) (pairs?_eq_some_iff.1 hpairs)
      | none =>
        obtain ⟨front, c, rest, rfl, hfront, hc⟩ := exists_foreign heven hpairs
        rw [fault_eq hfront hc]
        exact .foreign heven hfront hc

theorem Reads.decodeDigits_eq {r : Except Error Bytes} (h : Reads cs r) : decodeDigits cs = r := by
  cases h with
  | empty => rfl
  | odd hodd =>
    have hne : cs.isEmpty = false := by
      cases cs with
      | nil => cases hodd
      | cons c cs => rfl
    rw [decodeDigits, hne, if_neg Bool.false_ne_true, if_pos hodd]
  | bytes hne hspells =>
    exact hspells.decodeDigits fun hbs => hne (by simpa [Spells, hbs, digits] using hspells)
  | @foreign front rest c heven hfront hc =>
    have hne : (front ++ c :: rest).isEmpty = false := by simp
    have hpairs : pairs? (front ++ c :: rest) = none := by
      cases hread : pairs? (front ++ c :: rest) with
      | none => rfl
      | some bs =>
        have hhex := (pairs?_eq_some_iff.1 hread).isHex c (by simp)
        rw [hc] at hhex
        cases hhex
    rw [decodeDigits, hne, if_neg Bool.false_ne_true, if_neg (by omega), hpairs, ← fault_eq hfront hc]

/-- **Reading**, by what it comes to. -/
theorem decodeDigits_eq_iff {r : Except Error Bytes} : decodeDigits cs = r ↔ Reads cs r :=
  ⟨fun h => h ▸ reads_decodeDigits cs, Reads.decodeDigits_eq⟩

theorem decodeDigits_eq_ok_iff : decodeDigits cs = .ok bs ↔ cs ≠ [] ∧ Spells cs bs := by
  rw [decodeDigits_eq_iff]
  constructor
  · rintro ⟨⟩
    exact ⟨‹_›, ‹_›⟩
  · rintro ⟨hne, hspells⟩
    exact .bytes hne hspells

theorem decodeDigits_eq_error_empty_iff : decodeDigits cs = .error .empty ↔ cs = [] := by
  rw [decodeDigits_eq_iff]
  constructor
  · rintro ⟨⟩
    rfl
  · rintro rfl
    exact .empty

theorem decodeDigits_eq_error_oddLength_iff {n : Nat} :
    decodeDigits cs = .error (.oddLength n) ↔ n = utf8Length cs ∧ n % 2 = 1 := by
  rw [decodeDigits_eq_iff]
  constructor
  · rintro ⟨⟩
    exact ⟨rfl, ‹_›⟩
  · rintro ⟨rfl, hodd⟩
    exact .odd hodd

theorem decodeDigits_eq_error_foreignByte_iff {byte : UInt8} {position : Nat} :
    decodeDigits cs = .error (.foreignByte byte position) ↔
      utf8Length cs % 2 = 0 ∧ ∃ front c rest, cs = front ++ c :: rest ∧
        (∀ d ∈ front, Digit.isHex d = true) ∧ Digit.isHex c = false ∧ byte = leadByte c ∧
          position = front.length := by
  rw [decodeDigits_eq_iff]
  constructor
  · rintro ⟨⟩
    exact ⟨‹_›, _, _, _, rfl, ‹_›, ‹_›, rfl, rfl⟩
  · rintro ⟨heven, front, c, rest, rfl, hfront, hc, rfl, rfl⟩
    exact .foreign heven hfront hc

/-! ### Texts with blanks and other characters -/

/-- The text without its blanks. -/
def unblanked (text : String) : String := String.ofList (text.toList.filter fun c => !Text.isBlank c)

/-- The digits of a text. -/
def digitsIn (text : String) : String := String.ofList (text.toList.filter Digit.isHex)

variable {text : String}

theorem decode_eq (text : String) : decode text = decodeDigits (unblanked text).toList := by
  rw [decode, unblanked, String.toList_ofList]

theorem decodeLenient_eq (text : String) : decodeLenient text = decodeDigits (digitsIn text).toList := by
  rw [decodeLenient, digitsIn, String.toList_ofList]

theorem utf8ByteSize_eq (text : String) : text.utf8ByteSize = utf8Length text.toList := by
  have hbytes := congrArg List.length (Text.toList_toUTF8 text)
  rwa [Array.length_toList] at hbytes

/-- No digit is blank. -/
theorem unblanked_digitsIn (text : String) : unblanked (digitsIn text) = digitsIn text := by
  rw [unblanked, digitsIn, String.toList_ofList, List.filter_filter]
  congr 1
  refine List.filter_congr fun c _ => ?_
  cases hhex : Digit.isHex c with
  | false => rw [Bool.and_false]
  | true => rw [Digit.isBlank_eq_false hhex]; rfl

/-- The uppercase digits of bytes are the text in uppercase. -/
theorem spells_iff : Spells text.toList bs ↔ text.toUpper = encode bs := by
  rw [Spells, encode, ← String.toList_inj, String.toList_ofList, String.toUpper, String.toList_map]

/-- What the strict reader takes, the lenient one takes for the same. -/
theorem decodeLenient_of_decode (h : decode text = .ok bs) : decodeLenient text = .ok bs := by
  have hdigits := h
  rw [decode_eq, decodeDigits_eq_ok_iff] at hdigits
  have hsame : digitsIn text = unblanked text := by
    rw [digitsIn, unblanked]
    congr 1
    refine List.filter_congr fun c hc => ?_
    cases hblank : Text.isBlank c with
    | true =>
      rw [Bool.not_true, Bool.eq_false_iff]
      intro hhex
      rw [Digit.isBlank_eq_false hhex] at hblank
      cases hblank
    | false =>
      refine hdigits.2.isHex c ?_
      rw [unblanked, String.toList_ofList]
      exact List.mem_filter.2 ⟨hc, by rw [hblank]; rfl⟩
  rw [decodeLenient_eq, hsame, ← decode_eq, h]

/-- A separator that is filtered out leaves no trace. -/
theorem filter_intercalate {p : Char → Bool} {separator : List Char} (h : separator.filter p = [])
    (pieces : List (List Char)) :
    (List.intercalate separator pieces).filter p = pieces.flatMap (List.filter p) := by
  induction pieces with
  | nil => rfl
  | cons piece pieces ih =>
    cases pieces with
    | nil => simp
    | cons next pieces =>
      rw [List.intercalate_cons_cons, List.filter_append, List.filter_append, h, ih, List.append_nil,
        ← List.flatMap_cons]

theorem unblanked_encodeSpaced (bs : Bytes) :
    unblanked (encodeSpaced bs) = String.ofList (lowerDigits bs) := by
  have hpair : ∀ b : UInt8, (pair Digit.lowerHex b).filter (fun c => !Text.isBlank c) =
      pair Digit.lowerHex b := by
    intro b
    have hb := b.toNat_lt
    have hdigit : ∀ k < 16, Text.isBlank (Digit.lowerHex k) = false := by decide
    rw [List.filter_eq_self]
    intro c hc
    simp only [pair, List.mem_cons, List.not_mem_nil, or_false] at hc
    rcases hc with rfl | rfl
    · rw [hdigit _ (by omega)]; rfl
    · rw [hdigit _ (by omega)]; rfl
  rw [unblanked, encodeSpaced, String.toList_ofList, filter_intercalate (by decide), List.flatMap_map,
    lowerDigits]
  simp only [hpair]

/-- What either writer writes is read. -/
theorem decode_encode (h : bs ≠ []) : decode (encode bs) = .ok bs :=
  Spells.decode (by rw [encode, String.toList_ofList]; exact spells_digits bs) h

theorem decode_encodeSpaced (h : bs ≠ []) : decode (encodeSpaced bs) = .ok bs := by
  rw [decode_eq, unblanked_encodeSpaced, String.toList_ofList]
  exact (spells_lowerDigits bs).decodeDigits h

/-! ### Agreement -/

/-- What the strict reader says of a text is decided by what is left of it without blanks. -/
structure IsDecided (text : String) : Prop where
  /-- It reads the bytes whose uppercase digits are left, in whatever case. -/
  ok_iff : ∀ bs, decode text = .ok bs ↔ unblanked text ≠ "" ∧ (unblanked text).toUpper = encode bs
  /-- Nothing is left. -/
  empty_iff : decode text = .error .empty ↔ ∀ c ∈ text.toList, Text.isBlank c = true
  /-- An odd number of bytes is left. -/
  oddLength_iff : ∀ n, decode text = .error (.oddLength n) ↔ n = (unblanked text).utf8ByteSize ∧ n % 2 = 1
  /-- An even number of bytes is left, and a character is the first that is no digit. -/
  foreignByte_iff : ∀ byte position, decode text = .error (.foreignByte byte position) ↔
    (unblanked text).utf8ByteSize % 2 = 0 ∧ ∃ front c rest, (unblanked text).toList = front ++ c :: rest ∧
      (∀ d ∈ front, Digit.isHex d = true) ∧ Digit.isHex c = false ∧ byte = leadByte c ∧
        position = front.length
  /-- That is the only other error. -/
  otherwise : (∃ byte position, decode text = .error (.foreignByte byte position)) ↔
    (∀ bs, decode text ≠ .ok bs) ∧ (∃ c ∈ text.toList, Text.isBlank c = false) ∧
      (unblanked text).utf8ByteSize % 2 = 0

theorem isDecided (text : String) : IsDecided text := by
  have hempty : decode text = .error .empty ↔ ∀ c ∈ text.toList, Text.isBlank c = true := by
    rw [decode_eq, decodeDigits_eq_error_empty_iff]
    simp [unblanked]
  have hodd (n : Nat) : decode text = .error (.oddLength n) ↔
      n = (unblanked text).utf8ByteSize ∧ n % 2 = 1 := by
    rw [decode_eq, decodeDigits_eq_error_oddLength_iff, utf8ByteSize_eq]
  refine ⟨fun bs => ?_, hempty, hodd, fun byte position => ?_, ?_⟩
  · rw [decode_eq, decodeDigits_eq_ok_iff, spells_iff, ne_eq, String.toList_eq_nil_iff]
  · rw [decode_eq, decodeDigits_eq_error_foreignByte_iff, utf8ByteSize_eq]
  · constructor
    · rintro ⟨byte, position, hforeign⟩
      have hnone := mt hempty.2 (by rw [hforeign]; simp)
      have heven := mt (hodd (unblanked text).utf8ByteSize).2 (by rw [hforeign]; simp)
      exact ⟨by rw [hforeign]; simp, by simpa using hnone, by simpa using heven⟩
    · rintro ⟨hread, ⟨c, hc, hblank⟩, heven⟩
      cases hresult : decode text with
      | ok bs => exact absurd hresult (hread bs)
      | error e =>
        cases e with
        | empty =>
          rw [hempty.1 hresult c hc] at hblank
          cases hblank
        | oddLength n =>
          obtain ⟨rfl, hn⟩ := (hodd n).1 hresult
          omega
        | foreignByte byte position => exact ⟨byte, position, rfl⟩

/-- The readers undo the writers. -/
structure IsUndone (bs : Bytes) : Prop where
  /-- The strict reader reads uppercase digits. -/
  decode_encode : decode (encode bs) = .ok bs
  /-- It reads lowercase digits with spaces. -/
  decode_encodeSpaced : decode (encodeSpaced bs) = .ok bs
  /-- The lenient reader reads uppercase digits. -/
  decodeLenient_encode : decodeLenient (encode bs) = .ok bs
  /-- It reads lowercase digits with spaces. -/
  decodeLenient_encodeSpaced : decodeLenient (encodeSpaced bs) = .ok bs

/-- **The codecs agree.** What the strict reader says is decided by the text without blanks; both readers
undo both writers; the lenient reader goes along with the strict one wherever that one reads; and it is the
strict one on the digits of the text, so that no byte is foreign to it. -/
theorem codecs_agree (text : String) (bs : Bytes) :
    IsDecided text ∧ (bs ≠ [] → IsUndone bs) ∧ (decode text = .ok bs → decodeLenient text = .ok bs) ∧
      decodeLenient text = decode (digitsIn text) ∧
        ∀ byte position, decodeLenient text ≠ .error (.foreignByte byte position) := by
  refine ⟨isDecided text, fun hbs => ?_, decodeLenient_of_decode, ?_, fun byte position hforeign => ?_⟩
  · exact ⟨decode_encode hbs, decode_encodeSpaced hbs, decodeLenient_of_decode (decode_encode hbs),
      decodeLenient_of_decode (decode_encodeSpaced hbs)⟩
  · rw [decodeLenient_eq, decode_eq, unblanked_digitsIn]
  · rw [decodeLenient_eq, decodeDigits_eq_error_foreignByte_iff, digitsIn, String.toList_ofList] at hforeign
    obtain ⟨-, front, c, rest, hdigits, -, hc, -⟩ := hforeign
    have hmem : c ∈ text.toList.filter Digit.isHex := hdigits ▸ by simp
    rw [(List.mem_filter.1 hmem).2] at hc
    cases hc

/-- A wide space and a line end among digits in both cases do not count. A character of three bytes makes the
length odd, and one of two bytes is foreign by its first byte. -/
theorem codecs_agree_wide :
    decode "\u3000aB 0f\r\n" = .ok [0xAB, 0x0F] ∧ decodeLenient "\u3000aB 0f\r\n" = .ok [0xAB, 0x0F] ∧
      IsUndone [0xAB, 0x0F] ∧ decode "\u20ac" = .error (.oddLength 3) ∧
        decode "7\u00e97" = .error (.foreignByte 0xC3 1) := by
  have hread : decode "\u3000aB 0f\r\n" = .ok [0xAB, 0x0F] := by decide
  have hagree := codecs_agree "\u3000aB 0f\r\n" [0xAB, 0x0F]
  refine ⟨hread, hagree.2.2.1 hread, hagree.2.1 (List.cons_ne_nil _ _), ?_, ?_⟩
  · exact ((codecs_agree "\u20ac" []).1.oddLength_iff 3).2 ⟨by decide, rfl⟩
  · exact ((codecs_agree "7\u00e97" []).1.foreignByte_iff 0xC3 1).2
      ⟨by decide, ['7'], '\u00e9', ['7'], by decide, by simp [Digit.isHex, Digit.hexValue?], by decide,
        by decide, rfl⟩

end Hex

end MeterBridge
