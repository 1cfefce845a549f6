import MeterBridge.Hex
import MeterBridge.Log

/-!
# Input lines

A line of live input carries a payload in one of two ways. A field `telegram=` holds its digits
between single or double bars, with anything in front of the field and behind it; only the first
field of the line counts. Or the whole line is digits. Blanks around the line do not count. Echoes
of a log are passed over: lines with the word `INFO` and lines that begin with a date.
-/

namespace MeterBridge.Line

/-- The word that marks a line as an echo of a log. -/
def echoMark : List Char := ['I', 'N', 'F', 'O']

/-- The name of the field that holds a payload, with the mark behind it. -/
def fieldMark : List Char := "telegram=".toList

/-- What follows the first occurrence of a mark, if it occurs. -/
def after? (mark : List Char) : List Char → Option (List Char)
  | [] => if mark.isEmpty then some [] else none
  | c :: rest =>
    if mark.isPrefixOf (c :: rest) then some ((c :: rest).drop mark.length) else after? mark rest

/-- The text begins with a date: four digits, a hyphen, two digits, a hyphen. -/
def beginsWithDate : List Char → Bool
  | a :: b :: c :: d :: '-' :: e :: f :: '-' :: _ => [a, b, c, d, e, f].all Char.isDigit
  | _ => false

/-- The line is an echo of a log. -/
def isEcho (line : List Char) : Bool := (after? echoMark line).isSome || beginsWithDate line

/-- The digits between two equal marks at the front of a text. -/
def enclosed? (mark text : List Char) : Option (List Char) :=
  if mark.isPrefixOf text then
    let body := text.drop mark.length
    let digits := body.takeWhile Digit.isHex
    if !digits.isEmpty && mark.isPrefixOf (body.dropWhile Digit.isHex) then some digits else none
  else none

/-- The digits that a line carries. -/
def digits? (line : List Char) : Option (List Char) :=
  match after? fieldMark line with
  | some field => (enclosed? ['|', '|'] field).or (enclosed? ['|'] field)
  | none => if !line.isEmpty && line.all Digit.isHex then some line else none

/-- What a line carries. -/
inductive Reading where
  /-- A payload. -/
  | payload (bytes : Bytes)
  /-- Nothing. -/
  | nothing
  /-- Digits that are no bytes. -/
  | undecodable (cause : Hex.Error)
  deriving DecidableEq, Repr

/-- Reads a line. -/
def read (line : String) : Reading :=
  let text := Text.trim line.toList
  if isEcho text then .nothing
  else match digits? text with
    | none => .nothing
    | some digits =>
      match Hex.decodeDigits digits with
      | .ok bytes => .payload bytes
      | .error cause => .undecodable cause

/-- The payload of a line. -/
def Reading.payload? : Reading → Option Bytes
  | .payload bytes => some bytes
  | _ => none

/-- What there is to report of a line. -/
def Reading.entries : Reading → List Log.Entry
  | .undecodable cause => [⟨.debug, "Ignoring line with undecodable hex: " ++ cause.message⟩]
  | _ => []

/-- The payload that a line carries. -/
def payload? (line : String) : Option Bytes := (read line).payload?

end MeterBridge.Line
