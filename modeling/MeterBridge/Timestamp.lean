import MeterBridge.Text.Blank
import MeterBridge.Text.Digit

/-!
# Timestamps

A moment is a number of seconds since the start of 1970 in universal time, and of nanoseconds
within the second. It is read in two notations: the internet notation, with fields of fixed width
and an offset from universal time, and the local notation of capture tools, without an offset and
with fields that may be shorter than usual and have blanks in front. Both follow the Gregorian
calendar, also for years before its introduction. The second 60 is a leap second: the second 59,
with nanoseconds that go on from one thousand million.
-/

namespace MeterBridge

/-- A moment in universal time. -/
structure Timestamp where
  /-- Seconds since the start of 1970. -/
  seconds : Int
  /-- Nanoseconds within the second; one thousand million and more in a leap second. -/
  nanos : Nat
  deriving DecidableEq, Repr

namespace Timestamp

/-! ### The calendar -/

/-- The year has a leap day. -/
def isLeapYear (year : Int) : Bool :=
  year % 4 = 0 && (year % 100 ≠ 0 || year % 400 = 0)

/-- The lengths of the months of a year. -/
def monthLengths (year : Int) : List Nat :=
  [31, if isLeapYear year then 29 else 28, 31, 30, 31, 30, 31, 31, 30, 31, 30, 31]

/-- The days from the first day of the year 1 to the first day of a year. -/
def daysBeforeYear (year : Int) : Int :=
  let past := year - 1
  365 * past + past / 4 - past / 100 + past / 400

/-- The days from the first day of 1970 to a day. -/
def daysSinceEpoch (year : Int) (month day : Nat) : Int :=
  let daysBeforeMonth : Nat := ((monthLengths year).take (month - 1)).foldl (· + ·) 0
  daysBeforeYear year - daysBeforeYear 1970 + daysBeforeMonth + (day - 1 : Nat)

/-- The years that a moment may lie in. -/
def isYear (year : Int) : Bool := -262143 ≤ year && year ≤ 262142

/-- The day is in the calendar. -/
def isDay (year : Int) (month day : Nat) : Bool :=
  isYear year && 1 ≤ month && 1 ≤ day &&
    match (monthLengths year)[month - 1]? with
    | some length => day ≤ length
    | none => false

/-- A reading of the calendar and the clock. -/
structure Reading where
  /-- The year. -/
  year : Int
  /-- The month, from 1 on. -/
  month : Nat
  /-- The day of the month, from 1 on. -/
  day : Nat
  /-- The hour. -/
  hour : Nat
  /-- The minute. -/
  minute : Nat
  /-- The second, 60 in a leap second. -/
  second : Nat
  /-- The nanosecond. -/
  nanos : Nat

/-- The reading is in the calendar and on the clock. -/
def Reading.isValid (r : Reading) : Bool :=
  isDay r.year r.month r.day && r.hour ≤ 23 && r.minute ≤ 59 && r.second ≤ 60

/-- The moment of a reading that is so many seconds ahead of universal time. -/
def ofReading? (r : Reading) (ahead : Int) : Option Timestamp :=
  if r.isValid then
    let day := daysSinceEpoch r.year r.month r.day
    let second : Nat := (r.hour * 60 + r.minute) * 60 + min r.second 59
    some {
      seconds := day * 86400 + second - ahead
      nanos := if r.second = 60 then r.nanos + 1000000000 else r.nanos }
  else none

/-! ### Fields

A reader takes a field from the front of a text and returns it with the rest of the text.
-/

/-- Reads as many digits as there are, up to `most` and at least `least`. -/
def number (least most : Nat) (cs : List Char) : Option (Nat × List Char) :=
  let digits := (cs.take most).takeWhile Char.isDigit
  if digits.length < least then none else some (Digit.value digits, cs.drop digits.length)

/-- Reads one of some characters. -/
def oneOf (choices : List Char) : List Char → Option (List Char)
  | c :: rest => if choices.contains c then some rest else none
  | [] => none

/-- Reads the fraction of a second, if there is one: nine digits count and more are passed over. -/
def fraction : List Char → Option (Nat × List Char)
  | '.' :: cs =>
    let digits := (cs.take 9).takeWhile Char.isDigit
    if digits.isEmpty then none
    else some (Digit.value digits * Nat.pow 10 (9 - digits.length), cs.dropWhile Char.isDigit)
  | cs => some (0, cs)

/-- Reads an offset in hours and minutes, as seconds ahead of universal time. -/
def offset : List Char → Option (Int × List Char)
  | [] => none
  | sign :: cs =>
    if sign = 'Z' ∨ sign = 'z' then some (0, cs)
    else if sign = '+' ∨ sign = '-' ∨ sign = '−' then do
      let (hours, cs) ← number 2 2 cs
      let cs ← oneOf [':'] cs
      let (minutes, cs) ← number 2 2 cs
      if 59 < minutes ∨ 23 < hours then none
      let ahead : Nat := (hours * 60 + minutes) * 60
      return (if sign = '+' then (ahead : Int) else -ahead, cs)
    else none

/-! ### Notations -/

/-- Reads the internet notation. -/
def ofInternet? (text : List Char) : Option Timestamp := do
  let (year, cs) ← number 4 4 text
  let (month, cs) ← number 2 2 (← oneOf ['-'] cs)
  let (day, cs) ← number 2 2 (← oneOf ['-'] cs)
  let (hour, cs) ← number 2 2 (← oneOf ['T', 't', ' '] cs)
  let (minute, cs) ← number 2 2 (← oneOf [':'] cs)
  let (second, cs) ← number 2 2 (← oneOf [':'] cs)
  let (nanos, cs) ← fraction cs
  let (ahead, cs) ← offset cs
  if cs.isEmpty then ofReading? { year, month, day, hour, minute, second, nanos } ahead else none

/-- Reads a year: up to four digits, or any number of digits behind a sign. -/
def signedYear : List Char → Option (Int × List Char)
  | '+' :: cs => do
    let (year, cs) ← number 1 cs.length cs
    return (year, cs)
  | '-' :: cs => do
    let (year, cs) ← number 1 cs.length cs
    return (-(year : Int), cs)
  | cs => do
    let (year, cs) ← number 1 4 cs
    return (year, cs)

/-- Reads a field of one or two digits with blanks in front. -/
def shortNumber (cs : List Char) : Option (Nat × List Char) := number 1 2 (Text.trimLeft cs)

/-- Reads the local notation, as a moment in universal time. -/
def ofLocal? (text : List Char) : Option Timestamp := do
  let (year, cs) ← signedYear (Text.trimLeft text)
  let (month, cs) ← shortNumber (← oneOf ['-'] cs)
  let (day, cs) ← shortNumber (← oneOf ['-'] cs)
  let (hour, cs) ← shortNumber (← oneOf ['T'] cs)
  let (minute, cs) ← shortNumber (← oneOf [':'] cs)
  let (second, cs) ← shortNumber (← oneOf [':'] cs)
  let (nanos, cs) ← fraction cs
  if cs.isEmpty then ofReading? { year, month, day, hour, minute, second, nanos } 0 else none

/-- Reads a text in either notation. -/
def parse? (text : String) : Option Timestamp :=
  (ofInternet? text.toList).or (ofLocal? text.toList)

end Timestamp

end MeterBridge
