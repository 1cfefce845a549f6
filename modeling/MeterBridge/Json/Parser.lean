import MeterBridge.Json.Basic
import MeterBridge.Json.Token

/-!
# Reading JSON

A value is built from tokens by a machine with a stack: one frame for each array or object that
has begun and not yet ended. The text must hold one value and nothing behind it. Nesting is not
limited here.
-/

namespace MeterBridge.Json

namespace Parser

/-- An array or object whose end has not been read, with a value under way inside it. -/
inductive Frame where
  /-- An array, with the items read so far, latest first. -/
  | array (items : List Json)
  /-- An object, with the fields read so far, latest first, and the key of the value. -/
  | object (fields : List (List Char × Json)) (key : List Char)

/-- What the machine has just read, and so what may follow. -/
inductive Position where
  /-- A value must follow. -/
  | value
  /-- An array has just begun: a value or its end follows. -/
  | firstItem
  /-- An object has just begun: a key or its end follows. -/
  | firstKey
  /-- Behind a comma in an object with these fields, latest first: a key must follow. -/
  | key (fields : List (List Char × Json))
  /-- Behind a key in an object with these fields, latest first: a colon must follow. -/
  | colon (fields : List (List Char × Json)) (key : List Char)
  /-- A value is complete. -/
  | complete (value : Json)

/-- The machine. -/
structure State where
  /-- The arrays and objects around the position, innermost first. -/
  stack : List Frame
  /-- What has just been read. -/
  position : Position

/-- The machine reads the first token of a value. -/
def begin? (stack : List Frame) : Token → Option State
  | .null => some ⟨stack, .complete .null⟩
  | .bool value => some ⟨stack, .complete (.bool value)⟩
  | .number literal => some ⟨stack, .complete (.number literal)⟩
  | .string literal => some ⟨stack, .complete (.string literal)⟩
  | .beginArray => some ⟨stack, .firstItem⟩
  | .beginObject => some ⟨stack, .firstKey⟩
  | .endArray | .endObject | .comma | .colon => none

/-- The machine reads the token behind a complete value. -/
def continue? (value : Json) : List Frame → Token → Option State
  | .array items :: stack, .comma => some ⟨.array (value :: items) :: stack, .value⟩
  | .array items :: stack, .endArray => some ⟨stack, .complete (.array (value :: items).reverse)⟩
  | .object fields key :: stack, .comma => some ⟨stack, .key ((key, value) :: fields)⟩
  | .object fields key :: stack, .endObject =>
    some ⟨stack, .complete (.object ((key, value) :: fields).reverse)⟩
  | _, _ => none

/-- The machine reads one token. -/
def step (s : State) (token : Token) : Option State :=
  match s.position, token with
  | .value, token => begin? s.stack token
  | .firstItem, .endArray => some ⟨s.stack, .complete (.array [])⟩
  | .firstItem, token => begin? (.array [] :: s.stack) token
  | .firstKey, .endObject => some ⟨s.stack, .complete (.object [])⟩
  | .firstKey, .string key => some ⟨s.stack, .colon [] key⟩
  | .key fields, .string key => some ⟨s.stack, .colon fields key⟩
  | .colon fields key, .colon => some ⟨.object fields key :: s.stack, .value⟩
  | .complete value, token => continue? value s.stack token
  | _, _ => none

/-- The value of a text that ends here. -/
def finish (s : State) : Option Json :=
  match s.stack, s.position with
  | [], .complete value => some value
  | _, _ => none

end Parser

/-- The value that a sequence of tokens spells. -/
def ofTokens? (tokens : List Token) : Option Json := do
  let s ← tokens.foldlM Parser.step ⟨[], .value⟩
  Parser.finish s

/-- The value of a text. -/
def parse? (text : String) : Option Json := do
  let tokens ← Token.scan? text.toList
  ofTokens? tokens

end MeterBridge.Json
