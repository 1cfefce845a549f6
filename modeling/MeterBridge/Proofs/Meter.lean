import MeterBridge.Meter

/-!
# Meter addresses on the wire

A byte of the wire form holds two decimal digits, and both can be read off it again. So the wire form of a
meter gives back its version, its type and the last eight digits of its serial number
(`ofWire?_wire`). Meters whose serial numbers have no more digits than that have different wire forms
(`wire_inj`); beyond eight digits serial numbers are told apart no longer (`wire_eq_iff`).

In the other direction a field is read if the halves of its first four bytes are digits
(`exists_ofWire?_iff`), and then it begins with the wire form of what is read (`ofWire?_eq_some_iff`).
-/

namespace MeterBridge

/-- The halves of bytes, the high half of each in front of the low one. -/
def Bytes.halves (bs : Bytes) : List Nat := bs.flatMap fun b => [b.toNat / 16, b.toNat % 16]

namespace Meter

variable {m m' : Meter} {field : Bytes}

/-! ### Two digits in a byte -/

theorem toNat_packPair (n : Nat) : (packPair n).toNat = n / 10 % 10 * 16 + n % 10 := by
  have hhigh : n / 10 % 10 < 10 := Nat.mod_lt _ (by decide)
  have hlow : n % 10 < 10 := Nat.mod_lt _ (by decide)
  rw [packPair, UInt8.toNat_ofNat_of_lt' (show _ < 256 by omega)]

/-- The high half of a byte with two digits is the first of them. -/
theorem high_packPair (n : Nat) : (packPair n).toNat / 16 = n / 10 % 10 := by
  rw [toNat_packPair]
  omega

/-- The low half is the second one. -/
theorem low_packPair (n : Nat) : (packPair n).toNat % 16 = n % 10 := by
  rw [toNat_packPair]
  omega

/-- A byte with two digits gives back the last two digits of the number. -/
theorem unpackPair?_packPair (n : Nat) : unpackPair? (packPair n) = some (n % 100) := by
  simp only [unpackPair?, high_packPair, low_packPair]
  rw [if_pos ⟨by omega, by omega⟩]
  congr 1
  omega

/-- It is read only if both halves are digits. -/
theorem unpackPair?_eq_some_iff {b : UInt8} {n : Nat} :
    unpackPair? b = some n ↔ n < 100 ∧ packPair n = b := by
  constructor
  · intro h
    obtain ⟨⟨hhigh, hlow⟩, hn⟩ := Option.ite_none_right_eq_some.1 h
    have hvalue : b.toNat / 16 * 10 + b.toNat % 16 = n := Option.some.inj hn
    refine ⟨by omega, UInt8.toNat_inj.1 ?_⟩
    rw [toNat_packPair]
    omega
  · rintro ⟨hn, rfl⟩
    rw [unpackPair?_packPair, Nat.mod_eq_of_lt hn]

theorem exists_unpackPair?_iff {b : UInt8} :
    (∃ n, unpackPair? b = some n) ↔ b.toNat / 16 ≤ 9 ∧ b.toNat % 16 ≤ 9 := by
  simp [unpackPair?]

/-- Only the last two digits are packed. -/
theorem packPair_congr {n n' : Nat} (h : n % 100 = n' % 100) : packPair n = packPair n' := by
  rw [← UInt8.toNat_inj, toNat_packPair, toNat_packPair]
  omega

/-! ### Addresses -/

/-- A meter is read back from its wire form, with the last eight digits of its serial number. -/
theorem ofWire?_wire (m : Meter) :
    ofWire? m.wire = some { m with serial := UInt32.ofNat (m.serial.toNat % 100000000) } := by
  have hserial : ∀ n : Nat, ((n / 1000000 % 100 * 100 + n / 10000 % 100) * 100 + n / 100 % 100) * 100 +
      n % 100 = n % 100000000 := by
    intro n
    omega
  simp only [wire, ofWire?, unpackPair?_packPair, Option.bind_eq_bind, Option.bind_some, hserial]
  rfl

/-- Without loss, if the serial number has no more digits. -/
theorem ofWire?_wire_of_le (h : m.serial.toNat ≤ greatestSerial) : ofWire? m.wire = some m := by
  have hlast : m.serial.toNat % 100000000 = m.serial.toNat := Nat.mod_eq_of_lt (Nat.lt_succ_of_le h)
  rw [ofWire?_wire, hlast, UInt32.ofNat_toNat]

/-- The wire form keeps the last eight digits of the serial number, the version and the type, and nothing
else. -/
theorem wire_eq_iff : m.wire = m'.wire ↔ m.serial.toNat % 100000000 = m'.serial.toNat % 100000000 ∧
    m.version = m'.version ∧ m.deviceType = m'.deviceType := by
  constructor
  · intro heq
    have hread := ofWire?_wire m
    rw [heq, ofWire?_wire, Option.some.injEq, mk.injEq] at hread
    obtain ⟨hserial, hversion, htype⟩ := hread
    have hlast : ∀ n : Nat, (UInt32.ofNat (n % 100000000)).toNat = n % 100000000 := fun n =>
      UInt32.toNat_ofNat_of_lt' (show _ < 4294967296 by omega)
    have hdigits := congrArg UInt32.toNat hserial
    rw [hlast, hlast] at hdigits
    exact ⟨hdigits.symm, hversion.symm, htype.symm⟩
  · rintro ⟨hserial, hversion, htype⟩
    rw [wire, wire, packPair_congr (show m.serial.toNat % 100 = m'.serial.toNat % 100 by omega),
      packPair_congr (show m.serial.toNat / 100 % 100 = m'.serial.toNat / 100 % 100 by omega),
      packPair_congr (show m.serial.toNat / 10000 % 100 = m'.serial.toNat / 10000 % 100 by omega),
      packPair_congr (show m.serial.toNat / 1000000 % 100 = m'.serial.toNat / 1000000 % 100 by omega),
      hversion, htype]

/-- **The wire form tells meters apart** whose serial numbers have at most eight digits. -/
theorem wire_inj (h : m.serial.toNat ≤ greatestSerial) (h' : m'.serial.toNat ≤ greatestSerial) :
    m.wire = m'.wire ↔ m = m' := by
  constructor
  · intro heq
    have hread := ofWire?_wire_of_le h
    rw [heq, ofWire?_wire_of_le h'] at hread
    exact (Option.some.inj hread).symm
  · rintro rfl
    rfl

/-- With nine digits it does not. -/
example : wire { standard with serial := 100000000 } = wire { standard with serial := 0 } := by decide

/-! ### Fields -/

/-- What stands behind an address does not count. -/
theorem ofWire?_append (m : Meter) (rest : Bytes) : ofWire? (m.wire ++ rest) = ofWire? m.wire := rfl

/-- **A field is read as a meter** if it begins with the wire form of the meter. -/
theorem ofWire?_eq_some_iff :
    ofWire? field = some m ↔ m.serial.toNat ≤ greatestSerial ∧ m.wire <+: field := by
  constructor
  · intro h
    unfold ofWire? at h
    split at h
    · next a b c d version deviceType rest =>
      simp only [Option.bind_eq_bind, Option.bind_eq_some_iff, Option.pure_def, Option.some.injEq,
        unpackPair?_eq_some_iff] at h
      obtain ⟨kd, ⟨hd, rfl⟩, kc, ⟨hc, rfl⟩, kb, ⟨hb, rfl⟩, ka, ⟨ha, rfl⟩, rfl⟩ := h
      generalize hn : ((kd * 100 + kc) * 100 + kb) * 100 + ka = n
      have hserial : (UInt32.ofNat n).toNat = n := UInt32.toNat_ofNat_of_lt' (show n < 4294967296 by omega)
      refine ⟨?_, rest, ?_⟩
      · rw [hserial, greatestSerial]
        omega
      · rw [wire, hserial, packPair_congr (show n % 100 = ka % 100 by omega),
          packPair_congr (show n / 100 % 100 = kb % 100 by omega),
          packPair_congr (show n / 10000 % 100 = kc % 100 by omega),
          packPair_congr (show n / 1000000 % 100 = kd % 100 by omega)]
        rfl
    · cases h
  · rintro ⟨hserial, rest, rfl⟩
    rw [ofWire?_append, ofWire?_wire_of_le hserial]

/-- **A field is read** if its first eight halves are digits. -/
theorem exists_ofWire?_iff :
    (∃ m, ofWire? field = some m) ↔
      wireLength ≤ field.length ∧ ∀ k ∈ Bytes.halves (field.take 4), k ≤ 9 := by
  constructor
  · rintro ⟨m, hm⟩
    obtain ⟨-, rest, rfl⟩ := ofWire?_eq_some_iff.1 hm
    refine ⟨by simp [wire, wireLength], ?_⟩
    simp only [wire, List.cons_append, List.take_succ_cons, List.take_zero, Bytes.halves,
      List.flatMap_cons, List.flatMap_nil, List.nil_append, List.forall_mem_cons, high_packPair, low_packPair]
    simp only [List.not_mem_nil, false_implies, implies_true, and_true]
    omega
  · rintro ⟨hlength, hhalves⟩
    match field, hlength, hhalves with
    | a :: b :: c :: d :: version :: deviceType :: rest, _, hhalves =>
      simp only [List.take_succ_cons, List.take_zero, Bytes.halves, List.flatMap_cons, List.cons_append,
        List.nil_append, List.forall_mem_cons] at hhalves
      obtain ⟨ha, ha', hb, hb', hc, hc', hd, hd', -⟩ := hhalves
      obtain ⟨ka, hka⟩ := exists_unpackPair?_iff.2 ⟨ha, ha'⟩
      obtain ⟨kb, hkb⟩ := exists_unpackPair?_iff.2 ⟨hb, hb'⟩
      obtain ⟨kc, hkc⟩ := exists_unpackPair?_iff.2 ⟨hc, hc'⟩
      obtain ⟨kd, hkd⟩ := exists_unpackPair?_iff.2 ⟨hd, hd'⟩
      rw [ofWire?, hkd, hkc, hkb, hka]
      exact ⟨_, rfl⟩

end Meter

end MeterBridge
