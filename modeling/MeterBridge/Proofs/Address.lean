import MeterBridge.Proofs.Machine
import MeterBridge.Proofs.Meter

/-!
# Meter addresses by machine arithmetic

The wire form of a meter is written down once more as a machine makes it: the serial number is a word of 32
bits, from which two digits at a time are taken off, and a byte is put together of halves of eight bits. A
field is read by the opposite loop, which adds two digits at a time to a word. Each sum, product, shift and
conversion has to fit into its type, or the machine stops.

* `Machine.packPairs_eq`, `Machine.unpackPairs_eq` — what one round of a loop keeps, and what the loop comes
  to. Neither ever stops.
* `Meter.wire_codec` — the wire form and the reading of fields are inverse to each other.
-/

namespace MeterBridge

namespace Machine

/-! ### Words and bytes -/

/-- The number as a word of 32 bits. -/
def word (n : Nat) : Except Fault UInt32 := if n < UInt32.size then .ok (UInt32.ofNat n) else .error .overflow

/-- The number as a byte. -/
def byte (n : Nat) : Except Fault UInt8 := if n < UInt8.size then .ok (UInt8.ofNat n) else .error .overflow

/-- The byte at a position. -/
def byteAt (data : Bytes) (i : Nat) : Except Fault UInt8 :=
  match data[i]? with
  | some b => .ok b
  | none => .error .outOfRange

theorem word_eq {n : Nat} (h : n < 2 ^ 32) : word n = .ok (UInt32.ofNat n) := if_pos h

/-! ### Writing -/

/-- The last two digits of a number as the halves of a byte. -/
def packPair (n : UInt32) : Except Fault UInt8 := do
  let pair := n % 100
  let high ← byte (pair / 10).toNat
  let shifted ← byte (high.toNat <<< 4)
  let low ← byte (pair % 10).toNat
  return shifted ||| low

/-- So many pairs of digits of a number, the last one first. -/
def packPairs : Nat → UInt32 → Except Fault Bytes
  | 0, _ => return []
  | count + 1, rest => do
    let pair ← packPair rest
    return pair :: (← packPairs count (rest / 100))

/-- The wire form of a meter. -/
def wire (m : Meter) : Except Fault Bytes := do
  return (← packPairs 4 m.serial) ++ [m.version, m.deviceType]

/-- Neither half outgrows its place. -/
theorem packPair_eq (n : UInt32) : packPair n = .ok (Meter.packPair n.toNat) := by
  have hhigh : (n % 100 / 10).toNat = n.toNat / 10 % 10 := by
    rw [UInt32.toNat_div, UInt32.toNat_mod]
    show n.toNat % 100 / 10 = _
    omega
  have hlow : (n % 100 % 10).toNat = n.toNat % 10 := by
    rw [UInt32.toNat_mod, UInt32.toNat_mod]
    show n.toNat % 100 % 10 = _
    omega
  -- Two digits, of which the first is shifted.
  have hpack : ∀ high < 10, ∀ low < 10, (do
      let high ← byte high
      let shifted ← byte (high.toNat <<< 4)
      let low ← byte low
      return shifted ||| low) = Except.ok (UInt8.ofNat (high * 16 + low)) := by decide
  rw [packPair, hhigh, hlow, Meter.packPair]
  exact hpack _ (Nat.mod_lt _ (by decide)) _ (Nat.mod_lt _ (by decide))

/-- What a round leaves to the next one is the number without its last two digits. -/
theorem packPairs_eq (count : Nat) (rest : UInt32) :
    packPairs count rest = .ok ((List.range count).map fun i => Meter.packPair (rest.toNat / 100 ^ i)) := by
  induction count generalizing rest with
  | zero => rfl
  | succ count ih =>
    have hrest : (rest / 100).toNat = rest.toNat / 100 := UInt32.toNat_div rest 100
    have hpower : ∀ i, rest.toNat / 100 / 100 ^ i = rest.toNat / 100 ^ (i + 1) := fun i => by
      rw [Nat.div_div_eq_div_mul, Nat.pow_succ']
    rw [packPairs, packPair_eq, ih, hrest, List.range_succ_eq_map, List.map_cons, List.map_map, Nat.pow_zero,
      Nat.div_one]
    simp only [hpower]
    rfl

/-- No step of the writing stops. -/
theorem wire_eq (m : Meter) : wire m = .ok m.wire := by
  rw [wire, packPairs_eq, Meter.wire]
  simp [List.range_succ, bind, Except.bind, pure, Except.pure]

/-! ### Reading -/

/-- The number with the two digits in the halves of a byte behind it, if they are digits. -/
def addPair (serial : UInt32) (b : UInt8) : Except Fault (Option UInt32) := do
  let high := b >>> 4
  let low := b &&& 0x0F
  if 9 < high ∨ 9 < low then return none
  let front ← word (serial.toNat * 100)
  let tens ← word (high.toNat * 10)
  let sum ← word (front.toNat + tens.toNat)
  return some (← word (sum.toNat + low.toNat))

/-- Where the number has six digits at most, the sum has eight and fits. -/
theorem addPair_eq {serial : UInt32} (h : serial.toNat < 1000000) (b : UInt8) :
    addPair serial b = .ok ((Meter.unpackPair? b).map fun n => UInt32.ofNat (serial.toNat * 100 + n)) := by
  have hhigh : (b >>> 4).toNat = b.toNat / 16 := by
    rw [UInt8.toNat_shiftRight]
    exact Nat.shiftRight_eq_div_pow _ 4
  have hlow : (b &&& 0x0F).toNat = b.toNat % 16 := by
    rw [UInt8.toNat_and]
    exact Nat.and_two_pow_sub_one_eq_mod _ 4
  have hforeign : ((9 : UInt8) < b >>> 4 ∨ (9 : UInt8) < b &&& 0x0F) ↔
      ¬ (b.toNat / 16 ≤ 9 ∧ b.toNat % 16 ≤ 9) := by
    rw [UInt8.lt_iff_toNat_lt, UInt8.lt_iff_toNat_lt, hhigh, hlow]
    show 9 < _ ∨ 9 < _ ↔ _
    omega
  by_cases hdigits : b.toNat / 16 ≤ 9 ∧ b.toNat % 16 ≤ 9
  · simp (disch := omega) only [addPair, hforeign, hdigits, hhigh, hlow, Meter.unpackPair?, word_eq,
      UInt32.toNat_ofNat', Nat.mod_eq_of_lt, bind, Except.bind]
    simp [Nat.add_assoc, pure, Except.pure]
  · simp only [addPair, hforeign, hdigits, Meter.unpackPair?]
    rfl

/-- The number with the pairs of digits in bytes behind it, unless some are no digits. -/
def unpackPairs : UInt32 → Bytes → Except Fault (Option UInt32)
  | serial, [] => return some serial
  | serial, b :: rest => do
    match ← addPair serial b with
    | none => return none
    | some serial => unpackPairs serial rest

/-- After `k` rounds the number has at most `2 * k` digits, and four rounds are too few for it to outgrow its
word. -/
theorem unpackPairs_eq {k : Nat} {serial : UInt32} {bytes : Bytes} (hserial : serial.toNat < 100 ^ k)
    (hrounds : k + bytes.length ≤ 4) :
    unpackPairs serial bytes = .ok ((bytes.mapM Meter.unpackPair?).map fun pairs =>
      UInt32.ofNat (pairs.foldl (fun n pair => n * 100 + pair) serial.toNat)) := by
  induction bytes generalizing k serial with
  | nil => simp [unpackPairs, pure, Except.pure]
  | cons b rest ih =>
    rw [List.length_cons] at hrounds
    have hsix : serial.toNat < 1000000 :=
      Nat.lt_of_lt_of_le hserial (Nat.pow_le_pow_right (by decide) (show k ≤ 3 by omega))
    rw [unpackPairs, addPair_eq hsix]
    cases hpair : Meter.unpackPair? b with
    | none => simp [hpair, bind, Except.bind, pure, Except.pure]
    | some pair =>
      have hlt : pair < 100 := (Meter.unpackPair?_eq_some_iff.1 hpair).1
      have hnext : (UInt32.ofNat (serial.toNat * 100 + pair)).toNat = serial.toNat * 100 + pair :=
        UInt32.toNat_ofNat_of_lt' (show _ < 4294967296 by omega)
      have hbound : (UInt32.ofNat (serial.toNat * 100 + pair)).toNat < 100 ^ (k + 1) := by
        rw [hnext, Nat.pow_succ]
        omega
      have hrest := ih hbound (by omega)
      rw [hnext] at hrest
      simp only [Option.map_some, bind, Except.bind, hrest]
      cases hpairs : rest.mapM Meter.unpackPair? <;> simp [hpair, hpairs]

/-- The meter of a field. -/
def ofWire? (field : Bytes) : Except Fault (Option Meter) := do
  if field.length < Meter.wireLength then return none
  let digits ← slice field 0 4
  match ← unpackPairs 0 digits.reverse with
  | none => return none
  | some serial => return some { serial, version := ← byteAt field 4, deviceType := ← byteAt field 5 }

/-- No step of the reading stops. -/
theorem ofWire?_eq (field : Bytes) : ofWire? field = .ok (Meter.ofWire? field) := by
  rcases Nat.lt_or_ge field.length Meter.wireLength with hlength | hlength
  · have hnone : Meter.ofWire? field = none := by
      rw [Option.eq_none_iff_forall_not_mem]
      intro m hm
      have hlong := (Meter.exists_ofWire?_iff.1 ⟨m, hm⟩).1
      omega
    rw [ofWire?, if_pos hlength, hnone]
    rfl
  · match field, hlength with
    | a :: b :: c :: d :: version :: deviceType :: rest, hlength =>
      have hslice : slice (a :: b :: c :: d :: version :: deviceType :: rest) 0 4 = .ok [a, b, c, d] :=
        slice_eq (by decide) (by simp)
      have hpairs : unpackPairs 0 [a, b, c, d].reverse =
          .ok (([d, c, b, a].mapM Meter.unpackPair?).map fun pairs =>
            UInt32.ofNat (pairs.foldl (fun n pair => n * 100 + pair) 0)) :=
        unpackPairs_eq (show (0 : UInt32).toNat < 100 ^ 0 by decide) (Nat.le_refl 4)
      have hmeter : Meter.ofWire? (a :: b :: c :: d :: version :: deviceType :: rest) =
          ([d, c, b, a].mapM Meter.unpackPair?).map fun pairs =>
            ⟨UInt32.ofNat (pairs.foldl (fun n pair => n * 100 + pair) 0), version, deviceType⟩ := by
        simp only [Meter.ofWire?, List.mapM_cons, List.mapM_nil, Option.pure_def, Option.bind_eq_bind,
          Option.bind_assoc, Option.bind_some, Option.map_bind, Option.map_some, Function.comp_def,
          List.foldl_cons, List.foldl_nil, Nat.zero_mul, Nat.zero_add]
      rw [ofWire?, if_neg (Nat.not_lt.2 hlength), hslice]
      simp only [bind, Except.bind, pure, Except.pure, hpairs, hmeter]
      cases [d, c, b, a].mapM Meter.unpackPair? <;> rfl

end Machine

/-! ### Both directions -/

namespace Meter

/-- What the wire form keeps of a meter. -/
structure IsWritten (m : Meter) : Prop where
  /-- The machine writes it, and nothing overflows. -/
  machine : Machine.wire m = .ok m.wire
  /-- All of the meter, if its serial number has eight digits at most. -/
  ofWire?_wire : m.serial.toNat ≤ greatestSerial → ofWire? m.wire = some m
  /-- The last eight digits of the serial number otherwise. -/
  wire_eq_iff : ∀ m' : Meter, m.wire = m'.wire ↔
    m.serial.toNat % 100000000 = m'.serial.toNat % 100000000 ∧ m.version = m'.version ∧
      m.deviceType = m'.deviceType

/-- What is read in a field. -/
structure IsRead (field : Bytes) : Prop where
  /-- The machine reads it, and nothing overflows. -/
  machine : Machine.ofWire? field = .ok (ofWire? field)
  /-- There is a meter in a field of six bytes, or more, if the halves of the first four are digits. -/
  exists_iff : (∃ m, ofWire? field = some m) ↔
    wireLength ≤ field.length ∧ ∀ k ∈ Bytes.halves (field.take 4), k ≤ 9
  /-- Its serial number has eight digits at most, and its wire form is the front of the field. -/
  wire_eq : ∀ m, ofWire? field = some m →
    m.serial.toNat ≤ greatestSerial ∧ m.wire = field.take wireLength

/-- **The wire form and the reading of fields are inverse to each other**: on meters whose serial numbers
have eight digits at most, and on fields whose first eight halves are digits. -/
theorem wire_codec (m : Meter) (field : Bytes) : m.IsWritten ∧ IsRead field := by
  refine ⟨⟨Machine.wire_eq m, ofWire?_wire_of_le, fun _ => wire_eq_iff⟩,
    ⟨Machine.ofWire?_eq field, exists_ofWire?_iff, fun m hm => ?_⟩⟩
  obtain ⟨hserial, hfront⟩ := ofWire?_eq_some_iff.1 hm
  exact ⟨hserial, List.prefix_iff_eq_take.1 hfront⟩

/-- Meters with zeros in front and with a digit too many, and a field with a half that is no digit. -/
theorem wire_codec_edges :
    ofWire? (wire ⟨90807, 0xFF, 0⟩) = some ⟨90807, 0xFF, 0⟩ ∧
      wire ⟨4294967295, 1, 2⟩ = wire ⟨94967295, 1, 2⟩ ∧
        ¬ (∃ m, ofWire? [0x99, 0x99, 0xA9, 0x99, 0, 0] = some m) ∧
          ∀ m, ofWire? [0x07, 0x08, 0x09, 0x00, 0xFF, 0, 0x44] = some m →
            m.wire = [0x07, 0x08, 0x09, 0x00, 0xFF, 0] := by
  refine ⟨(wire_codec _ []).1.ofWire?_wire (by decide), ((wire_codec _ []).1.wire_eq_iff _).2 (by decide),
    fun hread => ?_, fun m hm => ((wire_codec m _).2.wire_eq m hm).2⟩
  have hhalves := ((wire_codec standard _).2.exists_iff.1 hread).2
  exact absurd (hhalves 10 (by decide)) (by decide)

end Meter

end MeterBridge
