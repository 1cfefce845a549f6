import MeterBridge.Proofs.Address
import MeterBridge.Proofs.Blank
import MeterBridge.Proofs.Digit
import MeterBridge.Proofs.Validity

/-!
# Serial numbers, printed and on the wire

A serial number is printed on the meter with eight digits. Given as text it becomes a number, on the wire the
number becomes bytes with two digits each, the last ones first, and for people to read it is written out
again. The digits are the same in all three forms, zeros in front included.

* `Machine.parse?_eq` — how a machine makes a number of digits, one digit in each round. Eight digits are too
  few for the number to outgrow its word.
* `Meter.value_wireDigits`, `Meter.map_wireDigits` — the halves of the bytes on the wire, and when they are
  the digits of a text.
* `Meter.ofSerialText_digits` — which texts give a meter, and where their digits are found again.
-/

namespace MeterBridge

namespace Machine

/-! ### Reading numbers -/

/-- The number with a digit behind it, unless the character is no digit or the number outgrows its word. -/
def addDigit? (n : UInt32) (c : Char) : Option UInt32 :=
  if c.isDigit then do
    let front ← (word (n.toNat * 10)).toOption
    (word (front.toNat + (c.toNat - 48))).toOption
  else none

/-- The number that a text denotes: digits, with a plus in front of them perhaps. -/
def parse? : List Char → Option UInt32
  | [] => none
  | ['+'] => none
  | '+' :: digits => digits.foldlM addDigit? 0
  | digits => digits.foldlM addDigit? 0

variable {n : UInt32} {c : Char} {ds : List Char}

/-- Where the number has eight digits at most, the next one has nine and fits. -/
theorem addDigit?_eq (hn : n.toNat < 100000000) (hc : c.isDigit = true) :
    addDigit? n c = some (UInt32.ofNat (n.toNat * 10 + (c.toNat - 48))) := by
  have hrange := Digit.range_of_isDigit hc
  have hfront : (UInt32.ofNat (n.toNat * 10)).toNat = n.toNat * 10 :=
    UInt32.toNat_ofNat_of_lt' (show _ < 4294967296 by omega)
  rw [addDigit?, if_pos hc, word_eq (by omega)]
  simp only [Option.bind_eq_bind, Option.bind_some, Except.toOption, hfront]
  rw [word_eq (by omega)]

/-- After `k` rounds the number has at most `k` digits. -/
theorem foldlM_addDigit?_eq {k : Nat} (hn : n.toNat < 10 ^ k) (hrounds : k + ds.length ≤ 9)
    (hds : ∀ c ∈ ds, c.isDigit = true) :
    ds.foldlM addDigit? n = some (UInt32.ofNat (ds.foldl (fun n c => n * 10 + (c.toNat - 48)) n.toNat)) := by
  induction ds generalizing k n with
  | nil => simp
  | cons c ds ih =>
    rw [List.length_cons] at hrounds
    rw [List.forall_mem_cons] at hds
    have hlt : n.toNat < 100000000 :=
      Nat.lt_of_lt_of_le hn (Nat.pow_le_pow_right (by decide) (show k ≤ 8 by omega))
    have hrange := Digit.range_of_isDigit hds.1
    have hnext : (UInt32.ofNat (n.toNat * 10 + (c.toNat - 48))).toNat = n.toNat * 10 + (c.toNat - 48) :=
      UInt32.toNat_ofNat_of_lt' (show _ < 4294967296 by omega)
    have hbound : (UInt32.ofNat (n.toNat * 10 + (c.toNat - 48))).toNat < 10 ^ (k + 1) := by
      rw [hnext, Nat.pow_succ]
      omega
    have hrest := ih hbound (by omega) hds.2
    rw [hnext] at hrest
    rw [List.foldlM_cons, addDigit?_eq hlt hds.1, Option.bind_eq_bind, Option.bind_some, hrest,
      List.foldl_cons]

/-- **The number of one to eight digits.** -/
theorem parse?_eq (hne : ds ≠ []) (hlength : ds.length ≤ 8) (hds : ∀ c ∈ ds, c.isDigit = true) :
    parse? ds = some (UInt32.ofNat (Digit.value ds)) := by
  have hfold := foldlM_addDigit?_eq (show (0 : UInt32).toNat < 10 ^ 0 by decide) (by omega) hds
  -- No digit is a plus.
  have hplus : '+' ∉ ds := fun hmem => absurd (hds _ hmem) (by decide)
  rw [parse?]
  · exact hfold
  · exact hne
  · rintro rfl
    exact hplus (List.mem_singleton_self _)
  · rintro rest rfl
    exact hplus List.mem_cons_self

/-- Ten digits may be too many. -/
example : parse? "4294967296".toList = none := by decide

end Machine

namespace Meter

variable {m : Meter} {t : List Char}

/-! ### Digits on the wire -/

/-- The halves of the bytes of the serial number on the wire, in the order in which they are printed. -/
def wireDigits (m : Meter) : List Nat := Bytes.halves (m.wire.take 4).reverse

/-- They are digits, and they denote the number that the last eight digits of the serial number do. -/
theorem value_wireDigits (m : Meter) :
    Digit.value (m.wireDigits.map Nat.digitChar) = m.serial.toNat % 100000000 := by
  have hdigit : ∀ k : Nat, (k % 10).digitChar.toNat - 48 = k % 10 := by
    intro k
    rw [Nat.toNat_digitChar_of_lt_ten (Nat.mod_lt _ (by decide))]
    omega
  simp only [wireDigits, wire, Bytes.halves, List.take_succ_cons, List.take_zero, List.reverse_cons,
    List.reverse_nil, List.nil_append, List.cons_append, List.flatMap_cons, List.flatMap_nil, high_packPair,
    low_packPair, List.map_cons, List.map_nil, Digit.value, List.foldl_cons, List.foldl_nil, hdigit]
  omega

theorem lt_ten_of_mem_wireDigits : ∀ k ∈ m.wireDigits, k < 10 := by
  intro k hk
  obtain ⟨b, hb, hk⟩ := List.mem_flatMap.1 hk
  obtain ⟨n, rfl⟩ : ∃ n, b = packPair n := by
    simp only [wire, List.take_succ_cons, List.take_zero, List.mem_reverse, List.mem_cons, List.not_mem_nil,
      or_false] at hb
    rcases hb with rfl | rfl | rfl | rfl <;> exact ⟨_, rfl⟩
  rw [high_packPair, low_packPair, List.mem_cons, List.mem_singleton] at hk
  omega

theorem length_wireDigits (m : Meter) : m.wireDigits.length = 8 := rfl

/-- **The digits of a text on the wire**, if it denotes the serial number. -/
theorem map_wireDigits (hlength : t.length ≤ 8) (ht : ∀ c ∈ t, c.isDigit = true)
    (hserial : m.serial.toNat = Digit.value t) : m.wireDigits.map Nat.digitChar = Digit.padLeft 8 t := by
  have hlt : Digit.value t < 100000000 :=
    Nat.lt_of_lt_of_le (Digit.value_lt ht) (Nat.pow_le_pow_right (by decide) hlength)
  refine Digit.eq_of_value_eq (fun c hc => ?_) (Digit.isDigit_of_mem_padLeft ht) ?_ ?_
  · obtain ⟨k, hk, rfl⟩ := List.mem_map.1 hc
    rw [Nat.isDigit_digitChar]
    exact decide_eq_true (lt_ten_of_mem_wireDigits k hk)
  · rw [List.length_map, length_wireDigits, Digit.length_padLeft hlength]
  · rw [value_wireDigits, Digit.value_padLeft, hserial, Nat.mod_eq_of_lt hlt]

/-! ### Texts -/

/-- One to eight digits, which is what a serial number is given as. -/
structure IsSerial (t : List Char) : Prop where
  ne_nil : t ≠ []
  length_le : t.length ≤ 8
  isDigit : ∀ c ∈ t, c.isDigit = true

theorem IsSerial.value_le (h : IsSerial t) : Digit.value t ≤ greatestSerial :=
  Nat.le_of_lt_succ
    (Nat.lt_of_lt_of_le (Digit.value_lt h.isDigit) (Nat.pow_le_pow_right (by decide) h.length_le))

/-- **A text gives a meter** if it is one to eight digits without the blanks around it. -/
theorem ofSerialText_eq_ok_iff {s : String} :
    ofSerialText s = .ok m ↔ IsSerial (Text.trim s.toList) ∧
      m = { standard with serial := UInt32.ofNat (Digit.value (Text.trim s.toList)) } := by
  have hbad : ((Text.trim s.toList).isEmpty ∨ 8 < (Text.trim s.toList).length ∨
      !(Text.trim s.toList).all Char.isDigit) ↔ ¬ IsSerial (Text.trim s.toList) := by
    rw [← not_iff_not, Classical.not_not]
    simp only [not_or, List.isEmpty_iff, Nat.not_lt, Bool.not_eq_true', Bool.not_eq_false,
      List.all_eq_true]
    exact ⟨fun ⟨hne, hlength, hdigits⟩ => ⟨hne, hlength, hdigits⟩,
      fun h => ⟨h.ne_nil, h.length_le, h.isDigit⟩⟩
  rw [ofSerialText]
  by_cases h : IsSerial (Text.trim s.toList)
  · rw [if_neg (fun hb => hbad.1 hb h), Except.ok.injEq, and_iff_right h, eq_comm]
  · rw [if_pos (hbad.2 h)]
    exact ⟨fun hok => (nomatch hok), fun hmeter => absurd hmeter.1 h⟩

/-- Where the digits of a text are found again in the meter that it gives. -/
structure IsPrinted (m : Meter) (t : List Char) : Prop where
  /-- The machine makes the serial number of them. -/
  parse : Machine.parse? t = some m.serial
  /-- Nothing else is taken from the text. -/
  version : m.version = standard.version
  deviceType : m.deviceType = standard.deviceType
  /-- They are on the wire, with zeros in front. -/
  wire : m.wireDigits.map Nat.digitChar = Digit.padLeft 8 t
  /-- The meter is read back from there. -/
  ofWire : ofWire? m.wire = some m
  /-- What people read begins with them. -/
  text : Digit.padLeft 8 t <+: m.text.toList
  /-- A configuration that is valid with some meter is valid with this one. -/
  isValid : ∀ (c : Config) (other : Meter), (c.withMeter other).IsValid → (c.withMeter m).IsValid

theorem isPrinted_of_isSerial (h : IsSerial t) :
    IsPrinted { standard with serial := UInt32.ofNat (Digit.value t) } t := by
  have hvalue : (UInt32.ofNat (Digit.value t)).toNat = Digit.value t :=
    UInt32.toNat_ofNat_of_lt' (Nat.lt_of_le_of_lt h.value_le (by decide))
  have hle : (UInt32.ofNat (Digit.value t)).toNat ≤ greatestSerial := hvalue.trans_le h.value_le
  refine ⟨Machine.parse?_eq h.ne_nil h.length_le h.isDigit, rfl, rfl,
    map_wireDigits h.length_le h.isDigit hvalue, ofWire?_wire_of_le hle, ?_, fun c other hother => ?_⟩
  · rw [Meter.text, hvalue, Digit.decimal, Digit.padLeft_toDigits_value h.isDigit (by decide) h.length_le]
    simp only [toString, String.toList_append, String.toList_ofList, List.append_assoc]
    exact List.prefix_append _ _
  · obtain ⟨hanchors, -, hrest⟩ := Config.isValid_iff.1 hother
    exact Config.isValid_iff.2 ⟨hanchors, hle, hrest⟩

/-- **The digits of a printed serial number** are found again on the wire and in what people read. -/
theorem ofSerialText_digits (s : String) :
    ((∃ m, ofSerialText s = .ok m) ↔ ∃ t, Text.Trims s.toList t ∧ IsSerial t) ∧
      ∀ m t, ofSerialText s = .ok m → Text.Trims s.toList t → IsPrinted m t := by
  simp only [Text.trims_iff, ofSerialText_eq_ok_iff]
  constructor
  · constructor
    · rintro ⟨m, h, -⟩
      exact ⟨_, rfl, h⟩
    · rintro ⟨t, rfl, h⟩
      exact ⟨_, h, rfl⟩
  · rintro m t ⟨h, rfl⟩ rfl
    exact isPrinted_of_isSerial h

/-- Zeros in front and blanks around. -/
theorem ofSerialText_digits_zeros :
    ofSerialText "\u00a0 001234\n" = .ok ⟨1234, 0x1F, 0x16⟩ ∧
      IsPrinted ⟨1234, 0x1F, 0x16⟩ "001234".toList :=
  ⟨by rfl, (ofSerialText_digits "\u00a0 001234\n").2 _ _ (by rfl) (Text.trims_iff.2 (by decide))⟩

end Meter

end MeterBridge
