import MeterBridge.Error
import MeterBridge.Timestamp

/-!
# Notifications

A notification is what the bridge sends at once: a payload of bytes. It comes from a source and
was received at a moment, which is not known for a notification that is taken as it arrives.
-/

namespace MeterBridge

/-- A payload from the bridge. -/
structure Notification where
  /-- The bytes. -/
  payload : Bytes
  /-- Where the notification comes from. -/
  source : String
  /-- When it was received; the moment of its arrival here if none is given. -/
  receivedAt : Option Timestamp
  deriving DecidableEq, Repr

namespace Notification

/-- A notification that arrives now. -/
def arriving (payload : Bytes) (source : String) : Notification :=
  { payload, source, receivedAt := none }

/-- A notification whose payload is given in hexadecimal. -/
def ofHex (text source : String) : Except Error Notification :=
  match Hex.decode text with
  | .ok payload => .ok (arriving payload source)
  | .error cause => .error (.hex cause)

end Notification

end MeterBridge
