/-!
# Digits

Digits of base ten and base sixteen, shared by every notation of the library: their values, and
the writing of a number with a least width.
-/

namespace MeterBridge.Digit

/-- A digit of base sixteen in uppercase; zero to fifteen are meant. -/
def upperHex (n : Nat) : Char := Char.ofNat (if n < 10 then 48 + n else 55 + n)

/-- A digit of base sixteen in lowercase; zero to fifteen are meant. -/
def lowerHex (n : Nat) : Char := Char.ofNat (if n < 10 then 48 + n else 87 + n)

/-- The value of a digit of base sixteen in either case. -/
def hexValue? (c : Char) : Option Nat :=
  let n := c.toNat
  if 48 ≤ n ∧ n ≤ 57 then some (n - 48)
  else if 65 ≤ n ∧ n ≤ 70 then some (n - 55)
  else if 97 ≤ n ∧ n ≤ 102 then some (n - 87)
  else none

/-- The character is a digit of base sixteen. -/
def isHex (c : Char) : Bool := (hexValue? c).isSome

/-- The number that decimal digits denote. -/
def value (digits : List Char) : Nat := digits.foldl (fun n c => n * 10 + (c.toNat - 48)) 0

/-- The characters with zeros in front up to a width. -/
def padLeft (width : Nat) (cs : List Char) : List Char :=
  List.replicate (width - cs.length) '0' ++ cs

/-- A number in decimal with at least `width` digits. -/
def decimal (width n : Nat) : String := String.ofList (padLeft width (Nat.toDigits 10 n))

/-- An uppercase digit has the value that it was made from. -/
theorem hexValue?_upperHex {n : Nat} (h : n < 16) : hexValue? (upperHex n) = some n :=
  (by decide : ∀ k < 16, hexValue? (upperHex k) = some k) n h

/-- A lowercase digit has the value that it was made from. -/
theorem hexValue?_lowerHex {n : Nat} (h : n < 16) : hexValue? (lowerHex n) = some n :=
  (by decide : ∀ k < 16, hexValue? (lowerHex k) = some k) n h

end MeterBridge.Digit
