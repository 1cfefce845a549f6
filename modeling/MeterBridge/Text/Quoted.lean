import MeterBridge.Text.Printable

/-!
# Quoted text

How a text is shown inside a message: between quotes, with the escapes of a line-oriented log.
Tab, carriage return, line feed and NUL have short escapes, the backslash and the enclosing quote
are preceded by a backslash, and a character that leaves no mark of its own is written by its
code in hexadecimal, between braces and without leading zeros.
-/

namespace MeterBridge.Text

/-- The escape that names a character by its code. -/
def codeEscape (c : Char) : List Char :=
  "\\u\x7b".toList ++ Nat.toDigits 16 c.toNat ++ "\x7d".toList

/-- The character as it stands between two `quote` marks. -/
def quotedChar (quote c : Char) : List Char :=
  if c = '\t' then ['\\', 't']
  else if c = '\r' then ['\\', 'r']
  else if c = '\n' then ['\\', 'n']
  else if c = '\x00' then ['\\', '0']
  else if c = '\\' then ['\\', '\\']
  else if c = quote then ['\\', quote]
  else if isPrintable c then [c]
  else codeEscape c

/-- The text between `quote` marks. -/
def enclose (quote : Char) (text : List Char) : String :=
  String.ofList (quote :: text.flatMap (quotedChar quote) ++ [quote])

/-- The text between double quotes. -/
def quoted (text : String) : String := enclose '"' text.toList

/-- The character between single quotes. -/
def quotedAlone (c : Char) : String := enclose '\'' [c]

/-- A text that may be missing: `None`, or `Some` with the quoted text. -/
def quotedOption : Option String → String
  | none => "None"
  | some text => "Some(" ++ quoted text ++ ")"

end MeterBridge.Text
