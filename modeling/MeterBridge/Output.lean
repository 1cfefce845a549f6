import MeterBridge.Json.Decode
import MeterBridge.Telegram

/-!
# Output

Consumers read one telegram per line, in uppercase hexadecimal, by default framed as a field
`telegram=` with bars around the digits. A sink takes telegrams one after the other: a collector
keeps them, and a line writer writes their lines to a writer that may take a limited number of
bytes. A line that does not fit is written as far as it does, and is not taken.
-/

namespace MeterBridge

/-- How a telegram is framed on its line. -/
inductive LineFormat where
  /-- A field with single bars. -/
  | pipe
  /-- A field with double bars. -/
  | doublePipe
  /-- The digits alone. -/
  | bare
  deriving DecidableEq, Repr

namespace LineFormat

instance : Inhabited LineFormat := ⟨.pipe⟩

/-- The name of a format. -/
def name : LineFormat → String
  | .pipe => "pipe"
  | .doublePipe => "double-pipe"
  | .bare => "bare"

/-- The format of a name. -/
def ofName? (name : String) : Option LineFormat :=
  [LineFormat.pipe, .doublePipe, .bare].find? (·.name = name)

/-- A format from JSON. -/
def ofJson? (j : Json) : Option LineFormat := j.name?.bind ofName?

/-- The line of a telegram in hexadecimal, with its line feed. -/
def frame (format : LineFormat) (hex : String) : String :=
  match format with
  | .pipe => "telegram=|" ++ hex ++ "|\n"
  | .doublePipe => "telegram=||" ++ hex ++ "||\n"
  | .bare => hex ++ "\n"

/-- The line of a telegram. -/
def line (format : LineFormat) (t : Telegram) : String := format.frame t.hex

end LineFormat

/-- Something that takes telegrams one after the other. -/
class Sink (σ : Type) where
  /-- Gives a telegram to the sink: the sink afterwards, and whether it took the telegram. -/
  take : σ → Telegram → σ × Bool
  /-- Passes on what the sink may have held back: the sink afterwards, and whether all of it could be
  passed on. A sink that holds nothing back has nothing to do. -/
  flush : σ → σ × Bool := fun sink => (sink, true)

namespace Sink

/-- Gives telegrams to a sink until it does not take one: the sink afterwards, and whether it took
all of them. -/
def takeAll {σ : Type} [Sink σ] (sink : σ) : List Telegram → σ × Bool
  | [] => (sink, true)
  | t :: rest =>
    match take sink t with
    | (sink, true) => takeAll sink rest
    | (sink, false) => (sink, false)

end Sink

/-- A sink that keeps telegrams. -/
structure Collector where
  /-- The telegrams taken so far. -/
  telegrams : Array Telegram

namespace Collector

/-- The collector that has taken nothing. -/
def empty : Collector := ⟨#[]⟩

instance : Sink Collector where
  take c t := (⟨c.telegrams.push t⟩, true)

end Collector

/-- A sink that writes lines. Lines are ASCII text, so their characters are the bytes written. -/
structure LineWriter where
  /-- The format of the lines. -/
  format : LineFormat
  /-- How many more bytes the writer takes, if there is a limit. -/
  room : Option Nat
  /-- What has been written. -/
  output : String
  /-- The number of telegrams taken. -/
  written : Nat

namespace LineWriter

/-- The line writer that has written nothing. -/
def new (format : LineFormat) (room : Option Nat) : LineWriter :=
  { format, room, output := "", written := 0 }

/-- Writes the line of a telegram. -/
def take (w : LineWriter) (t : Telegram) : LineWriter × Bool :=
  let line := w.format.line t
  match w.room with
  | none => ({ w with output := w.output ++ line, written := w.written + 1 }, true)
  | some room =>
    if line.length ≤ room then
      ({ w with
          room := some (room - line.length)
          output := w.output ++ line
          written := w.written + 1 }, true)
    else
      ({ w with
          room := some 0
          output := w.output ++ String.ofList (line.toList.take room) }, false)

instance : Sink LineWriter where
  take := take

end LineWriter

end MeterBridge
