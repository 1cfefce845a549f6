import MeterBridge.Json.Number
import MeterBridge.Json.StringLiteral

/-!
# Tokens of JSON

A text is cut into tokens by a machine that reads one character after the other. Blanks between
tokens are the space, the tab, the line feed and the carriage return. A string may hold no
character below the space, and its escapes must be spelled right, but they are not decoded. A
number ends before the first character that can stand in no number, and must then obey the
grammar of numbers as a whole.
-/

namespace MeterBridge.Json

/-- A token, its literal as written. -/
inductive Token where
  /-- The bracket that begins an array. -/
  | beginArray
  /-- The bracket that ends an array. -/
  | endArray
  /-- The brace that begins an object. -/
  | beginObject
  /-- The brace that ends an object. -/
  | endObject
  /-- The comma between items or fields. -/
  | comma
  /-- The colon between a key and its value. -/
  | colon
  /-- The word `null`. -/
  | null
  /-- One of the words `true` and `false`. -/
  | bool (value : Bool)
  /-- A number. -/
  | number (literal : List Char)
  /-- A string, by the text between its quotes. -/
  | string (literal : List Char)
  deriving DecidableEq, Repr

namespace Token

/-- Where the machine stands. Texts read so far have their latest character first. -/
inductive Mode where
  /-- Between two tokens. -/
  | between
  /-- Inside a string. -/
  | string (read : List Char)
  /-- Behind the backslash of an escape. -/
  | escape (read : List Char)
  /-- Inside a four-digit escape with some digits left to come. -/
  | code (left : Nat) (read : List Char)
  /-- Inside a number. -/
  | number (read : List Char)
  /-- Inside a word. -/
  | word (read : List Char)

/-- The machine: where it stands, and the tokens it has cut, latest first. -/
structure Scanner where
  /-- Where the machine stands. -/
  mode : Mode
  /-- The tokens cut so far, latest first. -/
  tokens : List Token

/-- The character separates tokens. -/
def isBlank (c : Char) : Bool := c == ' ' || c == '\t' || c == '\n' || c == '\r'

/-- The character can stand in a number. -/
def inNumber (c : Char) : Bool :=
  c.isDigit || c == '-' || c == '+' || c == '.' || c == 'e' || c == 'E'

/-- The token of a mark that is complete by itself. -/
def ofMark? (c : Char) : Option Token :=
  if c = '[' then some .beginArray
  else if c = ']' then some .endArray
  else if c = '\x7b' then some .beginObject
  else if c = '\x7d' then some .endObject
  else if c = ',' then some .comma
  else if c = ':' then some .colon
  else none

/-- The token of a word. -/
def ofWord? (word : List Char) : Option Token :=
  if word = ['n', 'u', 'l', 'l'] then some .null
  else if word = ['t', 'r', 'u', 'e'] then some (.bool true)
  else if word = ['f', 'a', 'l', 's', 'e'] then some (.bool false)
  else none

/-- The token of a number. -/
def ofNumber? (literal : List Char) : Option Token :=
  if Number.isWellFormed literal then some (.number literal) else none

/-- The machine reads a character that stands between two tokens, or begins one. -/
def start (tokens : List Token) (c : Char) : Option Scanner :=
  if isBlank c then some ⟨.between, tokens⟩
  else if c = '"' then some ⟨.string [], tokens⟩
  else if c.isDigit || c == '-' then some ⟨.number [c], tokens⟩
  else if c.isLower then some ⟨.word [c], tokens⟩
  else do
    let token ← ofMark? c
    return ⟨.between, token :: tokens⟩

/-- The machine reads one character. -/
def step (s : Scanner) (c : Char) : Option Scanner :=
  match s.mode with
  | .between => start s.tokens c
  | .string read =>
    if c = '"' then some ⟨.between, .string read.reverse :: s.tokens⟩
    else if c = '\\' then some ⟨.escape (c :: read), s.tokens⟩
    else if c.toNat < 0x20 then none
    else some ⟨.string (c :: read), s.tokens⟩
  | .escape read =>
    if c = 'u' then some ⟨.code 3 (c :: read), s.tokens⟩
    else if (StringLiteral.shortEscape? c).isSome then some ⟨.string (c :: read), s.tokens⟩
    else none
  | .code left read =>
    if (Digit.hexValue? c).isNone then none
    else if left = 0 then some ⟨.string (c :: read), s.tokens⟩
    else some ⟨.code (left - 1) (c :: read), s.tokens⟩
  | .number read =>
    if inNumber c then some ⟨.number (c :: read), s.tokens⟩
    else do
      let token ← ofNumber? read.reverse
      start (token :: s.tokens) c
  | .word read =>
    if c.isLower then some ⟨.word (c :: read), s.tokens⟩
    else do
      let token ← ofWord? read.reverse
      start (token :: s.tokens) c

/-- The tokens of a text that ends here, latest first. -/
def finish (s : Scanner) : Option (List Token) :=
  match s.mode with
  | .between => some s.tokens
  | .number read => do
    let token ← ofNumber? read.reverse
    return token :: s.tokens
  | .word read => do
    let token ← ofWord? read.reverse
    return token :: s.tokens
  | .string _ | .escape _ | .code _ _ => none

/-- The tokens of a text. -/
def scan? (text : List Char) : Option (List Token) := do
  let s ← text.foldlM step ⟨.between, []⟩
  let tokens ← finish s
  return tokens.reverse

end Token

end MeterBridge.Json
