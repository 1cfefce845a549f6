import MeterBridge.Session.Record
import MeterBridge.Text.Blank
import MeterBridge.Text.Lines

/-!
# Session logs

A session log holds the records of a capture in one of two forms: one document with all records
under `frames`, or one record per line. A text that begins with a brace is read as a document if
all of it is one and each of its frames is a record, and line by line otherwise. A line that is no
record is skipped, and so is a record whose payload cannot be read; neither costs another record.
A frame that is no record does: the document is then read line by line, and of its records only
those are found that stand on a line by themselves.
-/

namespace MeterBridge.Session

/-- A place in a session log where a record is expected. -/
structure Item where
  /-- The number of the line, or of the record in the document, from 1 on. -/
  index : Nat
  /-- The record, if there is one. -/
  record : Except Error Record
  deriving Repr

namespace Item

/-- The notification of an item. -/
def notification (item : Item) : Except Error Notification :=
  match item.record with
  | .ok record => record.notification
  | .error e => .error e

/-- The report of an item that is skipped. -/
def skipEntries (item : Item) : List Log.Entry :=
  match item.notification with
  | .ok _ => []
  | .error e => [⟨.warn, s!"Skipping session record {item.index}: {e.message}"⟩]

/-- What there is to report of an item. -/
def entries (item : Item) : List Log.Entry :=
  (match item.record with
    | .ok record => record.entries
    | .error _ => []) ++ item.skipEntries

end Item

/-- The records of a document, all of which must be records. -/
def documentRecords? (text : String) : Option (List Record) := do
  match ← (← Json.parse? text).record? [["frames"]] 1 with
  | [some frames] => frames.items? Record.ofJson?
  | _ => none

/-- The items of a text with one record per line. Blank lines hold none, but they are counted. -/
def lineItems (text : String) : List Item :=
  ((Text.lines text.toList).zipIdx 1).filterMap fun (line, index) =>
    if line.all Text.isBlank then none
    else
      let record := match Record.parse? (String.ofList line) with
        | some record => .ok record
        | none => .error .record
      some { index, record }

/-- The items of a session log. -/
def items (text : String) : List Item :=
  let document :=
    if (Text.trimLeft text.toList).head? = some '\x7b' then documentRecords? text else none
  match document with
  | some records => (records.zipIdx 1).map fun (record, index) => { index, record := .ok record }
  | none => lineItems text

/-- The notifications of a session log, in order. -/
def notifications (text : String) : List Notification :=
  (items text).filterMap fun item => item.notification.toOption

/-- What there is to report of a session log. -/
def entries (text : String) : List Log.Entry := (items text).flatMap Item.entries

end MeterBridge.Session
