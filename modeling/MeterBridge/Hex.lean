import MeterBridge.Bytes
import MeterBridge.Text.Blank
import MeterBridge.Text.Digit
import MeterBridge.Text.Quoted

/-!
# Hexadecimal text

Bytes are written as two digits each, the high half first. Telegrams are printed in uppercase
without gaps, frame dumps in lowercase with a space between bytes. Reading takes either case and
comes in two strengths: `decode` drops blanks and refuses any other foreign character, and
`decodeLenient` keeps the digits and drops everything else.
-/

namespace MeterBridge.Hex

/-! ### Writing -/

/-- The two digits of a byte. -/
def pair (digit : Nat → Char) (b : UInt8) : List Char :=
  [digit (b.toNat / 16), digit (b.toNat % 16)]

/-- The uppercase digits of all bytes. -/
def digits (bs : Bytes) : List Char := bs.flatMap (pair Digit.upperHex)

/-- Uppercase digits without gaps. -/
def encode (bs : Bytes) : String := String.ofList (digits bs)

/-- The lowercase digits of all bytes. -/
def lowerDigits (bs : Bytes) : List Char := bs.flatMap (pair Digit.lowerHex)

/-- Lowercase digits with a space between bytes. -/
def encodeSpaced (bs : Bytes) : String :=
  String.ofList (List.intercalate [' '] (bs.map (pair Digit.lowerHex)))

/-- The two uppercase digits of one byte. -/
def byte (b : UInt8) : String := String.ofList (pair Digit.upperHex b)

/-! ### Reading -/

/-- What keeps a text from being read. -/
inductive Error where
  /-- No digit is left. -/
  | empty
  /-- The text is an odd number of bytes long. -/
  | oddLength (length : Nat)
  /-- A byte that is no digit stands at a position. -/
  | foreignByte (byte : UInt8) (position : Nat)
  deriving DecidableEq, Repr

/-- The message of an error; a foreign byte is shown as the character of that code. -/
def Error.message : Error → String
  | .empty => "Empty hex string"
  | .oddLength length => s!"Odd number of hex characters: {length}"
  | .foreignByte byte position =>
    let shown := Text.quotedAlone (Char.ofNat byte.toNat)
    s!"Hex decoding error: Invalid character {shown} at position {position}"

/-- Reads pairs of digits up to the end of the text. -/
def pairs? : List Char → Option Bytes
  | [] => some []
  | [_] => none
  | high :: low :: rest => do
    let high ← Digit.hexValue? high
    let low ← Digit.hexValue? low
    let bytes ← pairs? rest
    return UInt8.ofNat (16 * high + low) :: bytes

/-- The length of a text in UTF-8. -/
def utf8Length (cs : List Char) : Nat := (cs.flatMap String.utf8EncodeChar).length

/-- The first byte of a character in UTF-8. -/
def leadByte (c : Char) : UInt8 := (String.utf8EncodeChar c).headD 0

/-- What is wrong with a text of even length that is no sequence of pairs: the first character
that is no digit. All before it are digits, so its position is their number. -/
def fault (cs : List Char) : Error :=
  match cs.dropWhile Digit.isHex with
  | c :: _ => .foreignByte (leadByte c) (cs.takeWhile Digit.isHex).length
  | [] => .oddLength cs.length

/-- Reads a text of digits alone. -/
def decodeDigits (cs : List Char) : Except Error Bytes :=
  if cs.isEmpty then .error .empty
  else if utf8Length cs % 2 = 1 then .error (.oddLength (utf8Length cs))
  else match pairs? cs with
    | some bytes => .ok bytes
    | none => .error (fault cs)

/-- Reads digits with blanks anywhere among them. -/
def decode (text : String) : Except Error Bytes :=
  decodeDigits (text.toList.filter fun c => !Text.isBlank c)

/-- Reads the digits of a text and passes over all other characters. -/
def decodeLenient (text : String) : Except Error Bytes :=
  decodeDigits (text.toList.filter Digit.isHex)

/-- Reading pairs gives back the bytes that were written. -/
theorem pairs?_digits (bs : Bytes) : pairs? (digits bs) = some bs := by
  induction bs with
  | nil => rfl
  | cons b bs ih =>
    have hb := b.toNat_lt
    have hhigh : b.toNat / 16 < 16 := by omega
    have hlow : b.toNat % 16 < 16 := by omega
    have hsum : 16 * (b.toNat / 16) + b.toNat % 16 = b.toNat := by omega
    simp only [digits, pair, List.flatMap_cons, List.cons_append, List.nil_append] at ih ⊢
    simp only [pairs?, Digit.hexValue?_upperHex hhigh, Digit.hexValue?_upperHex hlow, ih, hsum,
      Option.bind_eq_bind, Option.bind_some, Option.pure_def, UInt8.ofNat_toNat]

/-- So different bytes are written differently. -/
theorem encode_inj {a b : Bytes} : encode a = encode b ↔ a = b := by
  refine ⟨fun h => ?_, congrArg encode⟩
  have hpairs := congrArg (pairs? ·.toList) h
  simpa [encode, pairs?_digits] using hpairs

end MeterBridge.Hex
