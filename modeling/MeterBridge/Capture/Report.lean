import MeterBridge.Capture

/-!
# Capture reports

The tallies of a capture for people to read: the totals, and one line per header, per envelope
type and per content length.
-/

namespace MeterBridge.Capture

/-- A byte in hexadecimal with its mark. -/
def marked (b : UInt8) : String := "0x" ++ Hex.byte b

/-- The line of an envelope type. A single envelope has a single sequence byte to show. -/
def sequenceLine (entry : UInt8 × SequenceTally) : String :=
  let (kind, tally) := entry
  match tally.least?, tally.greatest? with
  | some least, some greatest =>
    if 1 < tally.samples then
      s!"  type {marked kind}: {tally.samples} samples, {tally.unique} unique values "
        ++ s!"({marked least} to {marked greatest})\n"
    else s!"  type {marked kind}: 1 sample ({marked least})\n"
  | _, _ => ""

/-- The line of a header. -/
def headerLine (entry : Bytes × Nat) : String := s!"  {Hex.encode entry.1}: {entry.2}\n"

/-- The line of a content length. -/
def lengthLine (entry : Nat × Nat) : String := s!"  {entry.1} bytes: {entry.2}\n"

/-- The report of a capture. -/
def report (c : Capture) : String :=
  s!"Notifications: {c.notifications} ({c.unwrapped} without envelope)\n"
    ++ s!"Envelopes:     {c.envelopes} ({c.incomplete} unterminated, {c.tooShort} too short for "
    ++ "header analysis)\n"
    ++ "Header patterns:\n" ++ String.join (c.headers.entries.map headerLine)
    ++ "Sequence bytes:\n" ++ String.join (c.sequences.entries.map sequenceLine)
    ++ "Frame lengths:\n" ++ String.join (c.lengths.entries.map lengthLine)

end MeterBridge.Capture
