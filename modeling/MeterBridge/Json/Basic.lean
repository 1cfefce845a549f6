/-!
# JSON values

A JSON value keeps its literals as they are written: a number is the text of the number, a string
is the text between its quotes with the escapes still in it. What a literal means is decided by
the reader that needs it (`Json.Number`, `Json.StringLiteral`), so a value of which nothing is
needed may hold numbers of any size and escapes that name no character. The fields of an object
stay in the order of the text, and a key may stand in it more than once.
-/

namespace MeterBridge

/-- A JSON value with its literals as written. -/
inductive Json where
  /-- The word `null`. -/
  | null
  /-- One of the words `true` and `false`. -/
  | bool (value : Bool)
  /-- A number, by its literal. -/
  | number (literal : List Char)
  /-- A string, by the literal between its quotes. -/
  | string (literal : List Char)
  /-- The items between brackets. -/
  | array (items : List Json)
  /-- The fields between braces: the literal of the key, and the value. -/
  | object (fields : List (List Char × Json))

namespace Json

/-- A natural number in decimal. -/
def ofNat (n : Nat) : Json := .number (Nat.toDigits 10 n)

/-- A string literal between its quotes. -/
def between (literal : List Char) : List Char := '"' :: literal ++ ['"']

mutual

/-- The text of a value without any space. -/
def compactChars : Json → List Char
  | .null => ['n', 'u', 'l', 'l']
  | .bool true => ['t', 'r', 'u', 'e']
  | .bool false => ['f', 'a', 'l', 's', 'e']
  | .number literal => literal
  | .string literal => between literal
  | .array items => '[' :: itemsChars items ++ [']']
  | .object fields => '\x7b' :: fieldsChars fields ++ ['\x7d']

/-- The items of an array with commas between them. -/
def itemsChars : List Json → List Char
  | [] => []
  | [item] => compactChars item
  | item :: next :: rest => compactChars item ++ ',' :: itemsChars (next :: rest)

/-- The fields of an object with commas between them. -/
def fieldsChars : List (List Char × Json) → List Char
  | [] => []
  | [(key, value)] => between key ++ ':' :: compactChars value
  | (key, value) :: next :: rest =>
    between key ++ ':' :: compactChars value ++ ',' :: fieldsChars (next :: rest)

end

/-- The text of a value without any space. -/
def compact (j : Json) : String := String.ofList j.compactChars

end Json

end MeterBridge
