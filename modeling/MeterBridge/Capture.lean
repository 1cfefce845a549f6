import MeterBridge.Envelope.Header
import MeterBridge.Envelope.Span
import MeterBridge.Notification
import MeterBridge.SortedMap

/-!
# Capture tallies

Before rules are written for a bridge, a capture of its notifications is tallied: how many
envelopes there are, which headers they have, how the sequence bytes of each type move, and how
long the contents are. The tallies do not depend on the order of the notifications.
-/

namespace MeterBridge

/-- The sequence bytes seen under one envelope type. -/
structure SequenceTally where
  /-- The number of envelopes. -/
  samples : Nat
  /-- The distinct sequence bytes. -/
  values : SortedMap UInt8 Unit

namespace SequenceTally

/-- The tally of no envelope. -/
def empty : SequenceTally := { samples := 0, values := .empty }

/-- The tally with one more envelope. -/
def record (t : SequenceTally) (sequence : UInt8) : SequenceTally :=
  { samples := t.samples + 1, values := t.values.insert sequence () }

/-- The number of distinct sequence bytes. -/
def unique (t : SequenceTally) : Nat := t.values.entries.length

/-- The least sequence byte. -/
def least? (t : SequenceTally) : Option UInt8 := t.values.entries.head?.map (·.1)

/-- The greatest sequence byte. -/
def greatest? (t : SequenceTally) : Option UInt8 := t.values.entries.getLast?.map (·.1)

end SequenceTally

/-- What is counted in a capture. -/
structure Capture where
  /-- Payloads. -/
  notifications : Nat
  /-- Payloads without an envelope. -/
  unwrapped : Nat
  /-- Envelopes. -/
  envelopes : Nat
  /-- Envelopes without a closing delimiter. -/
  incomplete : Nat
  /-- Envelopes whose content is too short for a header. -/
  tooShort : Nat
  /-- Envelopes by the bytes of their header. -/
  headers : SortedMap Bytes Nat
  /-- Sequence bytes by the type of the envelope. -/
  sequences : SortedMap UInt8 SequenceTally
  /-- Envelopes by the length of their content. -/
  lengths : SortedMap Nat Nat

namespace Capture

/-- The capture without payloads. -/
def empty : Capture :=
  { notifications := 0, unwrapped := 0, envelopes := 0, incomplete := 0, tooShort := 0,
    headers := .empty, sequences := .empty, lengths := .empty }

/-- One more than a count that may not have begun. -/
def increment (count : Option Nat) : Nat := count.getD 0 + 1

/-- Tallies the header of an envelope. -/
def addHeader (c : Capture) (content : Bytes) : Capture :=
  match Envelope.Header.ofContent? content with
  | none => { c with tooShort := c.tooShort + 1 }
  | some header =>
    { c with
      headers := c.headers.alter (content.take header.length) increment
      sequences := c.sequences.alter header.kind.byte fun tally =>
        (tally.getD .empty).record header.sequence }

/-- Tallies an envelope. -/
def addSpan (c : Capture) (span : Envelope.Span) : Capture :=
  addHeader
    { c with
      envelopes := c.envelopes + 1
      incomplete := if span.complete then c.incomplete else c.incomplete + 1
      lengths := c.lengths.alter span.content.length increment }
    span.content

/-- Tallies a payload. -/
def addPayload (c : Capture) (payload : Bytes) : Capture :=
  let c := { c with notifications := c.notifications + 1 }
  match Envelope.spans payload with
  | [] => { c with unwrapped := c.unwrapped + 1 }
  | spans => spans.foldl addSpan c

/-- The tallies of some payloads. -/
def ofPayloads (payloads : List Bytes) : Capture := payloads.foldl addPayload empty

/-- The tallies of some notifications. -/
def ofNotifications (ns : List Notification) : Capture := ofPayloads (ns.map (·.payload))

/-- The more frequent of a header found so far and another one; the former if they are equal. -/
def moreFrequent (best : Option (Bytes × Nat)) (entry : Bytes × Nat) : Option (Bytes × Nat) :=
  match best with
  | none => some entry
  | some (header, count) => if entry.2 ≤ count then some (header, count) else some entry

/-- The most frequent header with its count; the least of them if several are most frequent. -/
def dominantHeader? (c : Capture) : Option (Bytes × Nat) :=
  c.headers.entries.foldl moreFrequent none

end Capture

end MeterBridge
