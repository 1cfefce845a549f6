/-!
# Lines

A text is cut into lines at its line feeds. A carriage return directly in front of a line feed
belongs to the line end. The piece behind the last line feed is a line unless it is empty. The
cutting works on any symbols, so that it serves characters and bytes alike.
-/

namespace MeterBridge.Text

variable {α : Type} [DecidableEq α]

/-- A line without the carriage return at its end; the line is given in reverse. -/
def withoutReturn (carriageReturn : α) : List α → List α
  | [] => []
  | c :: rest => if c = carriageReturn then rest else c :: rest

/-- The lines of a text that goes on behind `read`, the reverse of what stands in front of it in
its first line. -/
def linesFrom (lineFeed carriageReturn : α) (read : List α) : List α → List (List α)
  | [] => if read.isEmpty then [] else [read.reverse]
  | c :: rest =>
    if c = lineFeed then
      (withoutReturn carriageReturn read).reverse :: linesFrom lineFeed carriageReturn [] rest
    else linesFrom lineFeed carriageReturn (c :: read) rest

/-- The lines of a text. -/
def lines (text : List Char) : List (List Char) := linesFrom '\n' '\r' [] text

/-- The lines of a text in bytes. -/
def byteLines (text : List UInt8) : List (List UInt8) := linesFrom 10 13 [] text

/-- The text of bytes in UTF-8, unless they are no such text. -/
def ofUTF8? (bytes : List UInt8) : Option String := String.fromUTF8? ⟨bytes.toArray⟩

/-- The lines of a text in UTF-8, each unless it is no such text. -/
def utf8Lines (text : List UInt8) : List (Option String) := (byteLines text).map ofUTF8?

/-- A text whose first part ends a line has the lines of both parts. -/
theorem linesFrom_append (lineFeed carriageReturn : α) (read front rest : List α) :
    linesFrom lineFeed carriageReturn read (front ++ lineFeed :: rest) =
      linesFrom lineFeed carriageReturn read (front ++ [lineFeed])
        ++ linesFrom lineFeed carriageReturn [] rest := by
  induction front generalizing read with
  | nil => simp [linesFrom]
  | cons c front ih =>
    by_cases h : c = lineFeed
    · simp [linesFrom, h, ih]
    · simp [linesFrom, h, ih]

end MeterBridge.Text
