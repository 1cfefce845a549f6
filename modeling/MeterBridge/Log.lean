import MeterBridge.Hex

/-!
# Log entries

An operation that has something to report returns log entries beside its result. An entry has a
level and a text; a verbosity says from which level on entries are shown. Two kinds of text recur:
the dump of a frame, which shows up to 64 bytes, and the summary of a frame, which names its kind
and its source and shows up to 32 bytes.
-/

namespace MeterBridge.Log

/-- How grave an entry is. -/
inductive Level where
  /-- Something failed. -/
  | error
  /-- Something was dropped or is suspicious. -/
  | warn
  /-- Progress. -/
  | info
  /-- Detail for finding faults. -/
  | debug
  deriving DecidableEq, Repr

/-- Which entries are shown. -/
inductive Verbosity where
  /-- None. -/
  | off
  /-- Errors only. -/
  | error
  /-- Warnings and errors. -/
  | warn
  /-- All but detail. -/
  | info
  /-- All entries. -/
  | debug
  /-- All entries, and finer ones if there were any. -/
  | trace
  deriving DecidableEq, Repr

/-- The least rank of verbosity that shows a level. -/
def Level.rank : Level → Nat
  | .error => 1
  | .warn => 2
  | .info => 3
  | .debug => 4

/-- Verbosities by how much they show. -/
def Verbosity.rank : Verbosity → Nat
  | .off => 0
  | .error => 1
  | .warn => 2
  | .info => 3
  | .debug => 4
  | .trace => 5

/-- Entries of this level are shown. -/
def Verbosity.shows (v : Verbosity) (level : Level) : Bool := level.rank ≤ v.rank

/-- A text reported at a level. -/
structure Entry where
  /-- How grave it is. -/
  level : Level
  /-- What is reported. -/
  text : String
  deriving DecidableEq, Repr

/-- The entries that a verbosity shows, in order. -/
def visible (v : Verbosity) (entries : List Entry) : List Entry :=
  entries.filter fun entry => v.shows entry.level

/-- The number of bytes that the dump of a frame shows. -/
def dumpLength : Nat := 64

/-- The number of bytes that the summary of a frame shows. -/
def summaryLength : Nat := 32

/-- The dump of a frame under a label. A longer frame is cut and its length is given. -/
def dump (label : String) (frame : Bytes) : Entry :=
  let rest := if dumpLength < frame.length then s!" ... ({frame.length} bytes total)" else ""
  ⟨.debug, label ++ ": " ++ Hex.encodeSpaced (frame.take dumpLength) ++ rest⟩

/-- The summary of a frame under a label. -/
def summary (label : String) (frame : Bytes) (kind source : Option String) : Entry :=
  let kind := Text.quotedOption kind
  let source := Text.quotedOption source
  let data := Hex.encodeSpaced (frame.take summaryLength)
  ⟨.debug, s!"{label}: {frame.length} bytes, kind={kind}, source={source}, data={data}"⟩

end MeterBridge.Log
