import MeterBridge.Line
import MeterBridge.Outcome
import MeterBridge.Session

/-!
# Events

What a receiver has to report while it works. Each event has its entries in the log, which may be
none: for a session log there are those of all its items.
-/

namespace MeterBridge.Receiver

/-- Something to report. -/
inductive Event where
  /-- A notification has arrived. -/
  | received (source : String) (payload : Bytes)
  /-- A rule cut nothing, or nothing more. -/
  | remarked (remark : Extraction.Remark)
  /-- The fallback is used for a length. -/
  | unrecognized (length : Nat) (source : String) (rule : Rule)
  /-- A telegram is accepted. -/
  | accepted (telegram : Telegram) (source : String)
  /-- A candidate is rejected. -/
  | rejected (rejection : Rejection)
  /-- A line holds digits that are no bytes. -/
  | undecodable (cause : Hex.Error)
  /-- A session log has been read. -/
  | sessionRead (items : List Session.Item)
  /-- A run has ended well. -/
  | ended (stats : Stats)

namespace Event

/-- The log entries of an event. -/
def entries : Event → List Log.Entry
  | .received source payload => [Log.dump ("Notification from " ++ source) payload]
  | .remarked remark => remark.entries
  | .unrecognized length source rule =>
    [⟨.warn, s!"Unrecognized length: {length} bytes from {source}, using {rule.name}"⟩]
  | .accepted t source =>
    [ ⟨.info, s!"Extracted {t.kind.name} telegram ({t.bytes.length} bytes) via {t.choice.text} "
        ++ s!"from {source}"⟩,
      Log.summary "Telegram" t.bytes (some t.kind.name) (some source)]
  | .rejected r => [⟨.warn, "Rejected candidate " ++ r.text⟩]
  | .undecodable cause => (Line.Reading.undecodable cause).entries
  | .sessionRead items => items.flatMap Session.Item.entries
  | .ended stats => [⟨.info, "Summary: " ++ stats.summary⟩]

end Event

end MeterBridge.Receiver
