import MeterBridge.Error

/-!
# Meter addresses

A meter is known by its serial number, its version and its device type. On the wire the address
takes six bytes: eight decimal digits of the serial number, two to a byte and the last two first,
then the version and the type. Addresses whose serial number has at most eight digits and wire
fields whose first eight halves are digits correspond one to one.
-/

namespace MeterBridge

/-- The address of a meter. -/
structure Meter where
  /-- The serial number; the wire form keeps its last eight digits. -/
  serial : UInt32
  /-- The version. -/
  version : UInt8
  /-- The device type. -/
  deviceType : UInt8
  deriving DecidableEq, Repr

namespace Meter

/-- The meter that is sought unless another one is configured. -/
def standard : Meter := { serial := 74493770, version := 0x1F, deviceType := 0x16 }

instance : Inhabited Meter := ⟨standard⟩

/-- The length of an address on the wire. -/
def wireLength : Nat := 6

/-- The greatest serial number of eight digits. -/
def greatestSerial : Nat := 99999999

/-- The last two decimal digits of a number, one in each half of a byte. -/
def packPair (n : Nat) : UInt8 := UInt8.ofNat (n / 10 % 10 * 16 + n % 10)

/-- The two decimal digits in the halves of a byte, if both are digits. -/
def unpackPair? (b : UInt8) : Option Nat :=
  let high := b.toNat / 16
  let low := b.toNat % 16
  if high ≤ 9 ∧ low ≤ 9 then some (high * 10 + low) else none

/-- The address on the wire. -/
def wire (m : Meter) : Bytes :=
  let n := m.serial.toNat
  [packPair n, packPair (n / 100), packPair (n / 10000), packPair (n / 1000000),
    m.version, m.deviceType]

/-- The address at the head of a field, if its first four bytes hold digits. -/
def ofWire? : Bytes → Option Meter
  | a :: b :: c :: d :: version :: deviceType :: _ => do
    let d ← unpackPair? d
    let c ← unpackPair? c
    let b ← unpackPair? b
    let a ← unpackPair? a
    let serial := UInt32.ofNat (((d * 100 + c) * 100 + b) * 100 + a)
    return { serial, version, deviceType }
  | _ => none

/-- The standard meter with the serial number that a text gives: one to eight digits, with blanks
around them ignored. -/
def ofSerialText (text : String) : Except Error Meter :=
  let digits := Text.trim text.toList
  if digits.isEmpty ∨ 8 < digits.length ∨ !digits.all Char.isDigit then
    .error (.config (.notSerial (String.ofList digits)))
  else .ok { standard with serial := UInt32.ofNat (Digit.value digits) }

/-- The address for people to read. -/
def text (m : Meter) : String :=
  s!"{Digit.decimal 8 m.serial.toNat} (v{Hex.byte m.version} t{Hex.byte m.deviceType})"

end Meter

end MeterBridge
