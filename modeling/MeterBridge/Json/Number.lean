import MeterBridge.Text.Digit

/-!
# Numbers of JSON

The grammar of number literals, and two readings of them: as a natural number, which takes plain
digits only, and as a floating-point number, of which only the range matters here. A double is made
of a literal in few steps: the leading digits that fit into 64 bits and the power of ten behind
them are each rounded to a double, and the two are multiplied. The literal is out of range if this
product is. Near the greatest double that can differ from rounding the literal at once.
-/

namespace MeterBridge.Json.Number

/-- The parts of a number literal. -/
structure Parts where
  /-- The literal begins with a minus sign. -/
  negative : Bool
  /-- The digits before the point. -/
  whole : List Char
  /-- The digits after the point. -/
  fraction : List Char
  /-- The power of ten after the mark `e`, zero without one. -/
  exponent : Int

/-- Digits without a zero in front of another one. -/
def isWhole (digits : List Char) : Bool :=
  match digits with
  | [] => false
  | '0' :: rest => rest.isEmpty && digits.all Char.isDigit
  | _ => digits.all Char.isDigit

/-- One or more digits. -/
def isDigits (digits : List Char) : Bool := !digits.isEmpty && digits.all Char.isDigit

/-- Reads what stands after the mark of the exponent. -/
def exponent? : List Char → Option Int
  | '+' :: digits => if isDigits digits then some (Digit.value digits) else none
  | '-' :: digits => if isDigits digits then some (-(Digit.value digits : Int)) else none
  | digits => if isDigits digits then some (Digit.value digits) else none

/-- Takes a literal apart, if it is well formed. -/
def parts? (literal : List Char) : Option Parts := do
  let (negative, unsigned) := match literal with
    | '-' :: rest => (true, rest)
    | _ => (false, literal)
  let isMark := fun c : Char => c == 'e' || c == 'E'
  let mantissa := unsigned.takeWhile (!isMark ·)
  let exponent ← match unsigned.dropWhile (!isMark ·) with
    | [] => some 0
    | _ :: rest => exponent? rest
  let whole := mantissa.takeWhile (· != '.')
  if !isWhole whole then none
  match mantissa.dropWhile (· != '.') with
  | [] => return { negative, whole, fraction := [], exponent }
  | _ :: fraction =>
    if isDigits fraction then return { negative, whole, fraction, exponent } else none

/-- The literal obeys the grammar. -/
def isWellFormed (literal : List Char) : Bool := (parts? literal).isSome

/-- The number that a literal of plain digits denotes. -/
def natural? (literal : List Char) : Option Nat :=
  if isWhole literal then some (Digit.value literal) else none

/-! ### The range of doubles -/

/-- The number of at most 53 bits, with zeros behind them, that is nearest to a number; of two that
are equally near, the one whose last bit is zero. -/
def roundToDouble (n : Nat) : Nat :=
  let unit := Nat.pow 2 (n.log2 + 1 - 53)
  let below := n / unit
  let left := n % unit
  if unit < 2 * left ∨ (unit = 2 * left ∧ below % 2 = 1) then (below + 1) * unit
  else below * unit

/-- The least magnitude that rounds to no finite double. -/
def overflowBound : Nat := Nat.pow 2 1024 - Nat.pow 2 970

/-- Appends digits to a significand while it fits 64 bits: the significand afterwards, and how many
digits have been appended, on top of those that already are. -/
def appendDigits (significand count : Nat) : List Char → Nat × Nat
  | [] => (significand, count)
  | c :: rest =>
    let next := significand * 10 + (c.toNat - 48)
    if next < UInt64.size then appendDigits next (count + 1) rest else (significand, count)

/-- A number in decimal as it is turned into a double: the digits that count, as one integer, and
the power of ten that it is multiplied with. -/
structure Scaled where
  /-- The leading digits, as many as fit into 64 bits. -/
  significand : Nat
  /-- The power of ten. -/
  exponent : Int

/-- The digits that count and their power of ten. The digits before the point that do not count
still raise the power; those after it are passed over. -/
def Parts.scaled (p : Parts) : Scaled :=
  let (whole, before) := appendDigits 0 0 p.whole
  let (significand, count) := appendDigits whole before p.fraction
  { significand, exponent := p.exponent + p.whole.length - count }

/-- The greatest power of ten that is a finite double. -/
def greatestPower : Nat := 308

/-- The product of significand and power of ten, both rounded to doubles before, is finite. -/
def Scaled.isFinite (s : Scaled) : Bool :=
  s.significand = 0 || s.exponent < 0 ||
    (s.exponent ≤ greatestPower &&
      roundToDouble s.significand * roundToDouble (Nat.pow 10 s.exponent.toNat) < overflowBound)

/-- The literal is in the range of doubles. -/
def isFinite (literal : List Char) : Bool :=
  match parts? literal with
  | none => false
  | some parts => parts.scaled.isFinite

end MeterBridge.Json.Number
