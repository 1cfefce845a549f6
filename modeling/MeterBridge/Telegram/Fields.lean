import MeterBridge.Meter

/-!
# Link-layer fields

The first ten bytes of a telegram are its length byte, its control byte, the manufacturer in two
bytes and the address in six. The byte behind them, if there is one, names the content of the
rest.
-/

namespace MeterBridge.Telegram

/-- The link-layer fields of a telegram. -/
structure Fields where
  /-- The length byte: the number of bytes behind it. -/
  length : UInt8
  /-- The control byte. -/
  control : UInt8
  /-- The manufacturer, low byte first on the wire. -/
  manufacturer : UInt16
  /-- The six bytes of the address. -/
  address : Bytes
  /-- The byte that names the content. -/
  controlInfo : Option UInt8
  /-- The number of bytes behind that byte. -/
  contentLength : Nat
  deriving DecidableEq, Repr

namespace Fields

/-- The length of the fields that every telegram has. -/
def fixedLength : Nat := 10

/-- The fields of a telegram of at least ten bytes. -/
def ofBytes? : Bytes → Option Fields
  | length :: control :: low :: high :: rest =>
    if rest.length < Meter.wireLength then none
    else
      let content := rest.drop Meter.wireLength
      some {
        length, control
        manufacturer := UInt16.ofNat (low.toNat + 256 * high.toNat)
        address := rest.take Meter.wireLength
        controlInfo := content.head?
        contentLength := content.length - 1 }
  | _ => none

/-- A letter of five bits: one is `A`, and 26 is `Z`. -/
def letter (n : Nat) : Char := Char.ofNat (64 + n % 32)

/-- The three letters of a manufacturer, five bits each. -/
def manufacturerCode (id : UInt16) : String :=
  String.ofList [letter (id.toNat / 1024), letter (id.toNat / 32), letter id.toNat]

/-- The letters of the manufacturer. -/
def code (f : Fields) : String := manufacturerCode f.manufacturer

/-- The meter that the address names, if its digits are digits. -/
def meter? (f : Fields) : Option Meter := Meter.ofWire? f.address

/-- The fields for people to read. -/
def text (f : Fields) : String :=
  let manufacturer :=
    Hex.byte (f.manufacturer.toNat / 256).toUInt8 ++ Hex.byte f.manufacturer.toUInt8
  let address := match f.meter? with
    | some meter => meter.text
    | none => Hex.encode f.address
  let content := match f.controlInfo with
    | some ci => s!"CI=0x{Hex.byte ci} payload {f.contentLength} bytes"
    | none => "CI=none"
  s!"L=0x{Hex.byte f.length} C=0x{Hex.byte f.control} M={f.code} (0x{manufacturer}) A={address} "
    ++ content

end Fields

end MeterBridge.Telegram
