import MeterBridge.Text.Digit

/-!
# String literals of JSON

The text between the quotes of a JSON string. `encode` escapes the quote, the backslash and the
control characters below the space, with the short escape where there is one, and writes all other
characters as they are. `decode` undoes every escape; it refuses a literal in which one half of a
surrogate pair stands alone, since that names no character.
-/

namespace MeterBridge.Json.StringLiteral

/-! ### Escapes -/

/-- The character that a one-letter escape stands for. -/
def shortEscape? (c : Char) : Option Char :=
  if c = '"' then some '"'
  else if c = '\\' then some '\\'
  else if c = '/' then some '/'
  else if c = 'b' then some '\x08'
  else if c = 'f' then some '\x0c'
  else if c = 'n' then some '\n'
  else if c = 'r' then some '\r'
  else if c = 't' then some '\t'
  else none

/-! ### Writing -/

/-- A character as it stands in a literal. -/
def encodeChar (c : Char) : List Char :=
  if c = '"' then ['\\', '"']
  else if c = '\\' then ['\\', '\\']
  else if c = '\x08' then ['\\', 'b']
  else if c = '\x0c' then ['\\', 'f']
  else if c = '\n' then ['\\', 'n']
  else if c = '\r' then ['\\', 'r']
  else if c = '\t' then ['\\', 't']
  else if c.toNat < 0x20 then
    ['\\', 'u', '0', '0', Digit.lowerHex (c.toNat / 16), Digit.lowerHex (c.toNat % 16)]
  else [c]

/-- The literal of a text. -/
def encode (text : List Char) : List Char := text.flatMap encodeChar

/-! ### Reading -/

/-- The code unit that four digits name. -/
def unit? (a b c d : Char) : Option Nat := do
  let a ← Digit.hexValue? a
  let b ← Digit.hexValue? b
  let c ← Digit.hexValue? c
  let d ← Digit.hexValue? d
  return ((a * 16 + b) * 16 + c) * 16 + d

/-- The code unit is the first half of a surrogate pair. -/
def isLeading (unit : Nat) : Bool := 0xD800 ≤ unit && unit < 0xDC00

/-- The code unit is the second half of a surrogate pair. -/
def isTrailing (unit : Nat) : Bool := 0xDC00 ≤ unit && unit < 0xE000

/-- The character of a surrogate pair. -/
def ofPair (leading trailing : Nat) : Char :=
  Char.ofNat (0x10000 + (leading - 0xD800) * 0x400 + (trailing - 0xDC00))

/-- The text of a literal. -/
def decode : List Char → Option (List Char)
  | [] => some []
  | '\\' :: 'u' :: a :: b :: c :: d :: rest => do
    let unit ← unit? a b c d
    if isLeading unit then
      match rest with
      | '\\' :: 'u' :: e :: f :: g :: h :: rest => do
        let next ← unit? e f g h
        if isTrailing next then (ofPair unit next :: ·) <$> decode rest else none
      | _ => none
    else if isTrailing unit then none
    else (Char.ofNat unit :: ·) <$> decode rest
  | '\\' :: c :: rest => do
    let c ← shortEscape? c
    (c :: ·) <$> decode rest
  | c :: rest => (c :: ·) <$> decode rest

end MeterBridge.Json.StringLiteral
