import MeterBridge.Json.Decode
import MeterBridge.Log
import MeterBridge.Notification

/-!
# Session records

A capture tool writes down each notification as a record: its payload in hexadecimal, and what is
known of the device, the characteristic and the moment. Only the payload is required. As JSON a
record is an object; on reading, the moment may also be called `ts`.
-/

namespace MeterBridge.Session

/-- A notification as a capture tool writes it down. -/
structure Record where
  /-- When the notification was received. -/
  timestamp : Option String
  /-- The name of the device. -/
  deviceName : Option String
  /-- The address of the device. -/
  deviceAddress : Option String
  /-- The characteristic that sent the notification. -/
  characteristic : Option String
  /-- The length of the payload, as far as the tool counted it. -/
  dataLength : Option UInt64
  /-- The payload in hexadecimal. -/
  rawHex : String
  /-- The payload as far as it is text. -/
  rawText : Option String
  deriving DecidableEq, Repr

namespace Record

/-! ### JSON -/

/-- The names of the fields, each with its other spellings. -/
def spellings : List Json.Spellings :=
  [["timestamp", "ts"], ["device_name"], ["device_address"], ["characteristic_uuid"],
    ["data_length"], ["raw_hex"], ["raw_ascii"]]

/-- A text as a JSON string. -/
def textToJson (text : String) : Json := .string (Json.StringLiteral.encode text.toList)

/-- A text that may be missing as JSON. -/
def optionToJson (text : Option String) : Json := (text.map textToJson).getD .null

/-- A record as JSON. -/
def toJson (r : Record) : Json :=
  .object [
    ("timestamp".toList, optionToJson r.timestamp),
    ("device_name".toList, optionToJson r.deviceName),
    ("device_address".toList, optionToJson r.deviceAddress),
    ("characteristic_uuid".toList, optionToJson r.characteristic),
    ("data_length".toList, (r.dataLength.map fun n => Json.ofNat n.toNat).getD .null),
    ("raw_hex".toList, textToJson r.rawHex),
    ("raw_ascii".toList, optionToJson r.rawText)]

/-- Reads a field that may be absent or `null`. -/
def field? {α : Type} (read : Json → Option α) : Option Json → Option (Option α) :=
  Json.optional? (Json.nullable? read) none

/-- A record from JSON. -/
def ofJson? (j : Json) : Option Record := do
  match ← j.record? spellings spellings.length with
  | [timestamp, name, address, characteristic, dataLength, some rawHex, rawText] =>
    return {
      timestamp := ← field? Json.text? timestamp
      deviceName := ← field? Json.text? name
      deviceAddress := ← field? Json.text? address
      characteristic := ← field? Json.text? characteristic
      dataLength := ← field? Json.uint64? dataLength
      rawHex := ← rawHex.text?
      rawText := ← field? Json.text? rawText }
  | _ => none

/-- A record from JSON text. -/
def parse? (text : String) : Option Record := (Json.parse? text).bind ofJson?

/-! ### Notifications -/

/-- Where the notification comes from: the address of the device, or else its name, or else the
word `session`; and the characteristic behind it, if it is known. -/
def source (r : Record) : String :=
  let device := (r.deviceAddress.or r.deviceName).getD "session"
  match r.characteristic with
  | some characteristic => device ++ "/" ++ characteristic
  | none => device

/-- When the notification was received, if the record says so in a known notation. -/
def receivedAt (r : Record) : Option Timestamp := r.timestamp.bind Timestamp.parse?

/-- The notification of a record. -/
def notification (r : Record) : Except Error Notification :=
  match Hex.decode r.rawHex with
  | .ok payload => .ok { payload, source := r.source, receivedAt := r.receivedAt }
  | .error cause => .error (.hex cause)

/-- The report of a length that is not that of the payload. -/
def lengthEntries (r : Record) (payload : Bytes) : List Log.Entry :=
  match r.dataLength with
  | some claimed =>
    if claimed.toNat = payload.length then []
    else [⟨.warn, s!"Session record claims {claimed} bytes but carries {payload.length}"⟩]
  | none => []

/-- The report of a moment that is missing or in no known notation. -/
def timestampEntries (r : Record) : List Log.Entry :=
  if r.receivedAt.isSome then []
  else [⟨.debug, "Session record without usable timestamp: " ++ Text.quotedOption r.timestamp⟩]

/-- What there is to report of a record that has a payload. -/
def entries (r : Record) : List Log.Entry :=
  match r.notification with
  | .ok n => r.lengthEntries n.payload ++ r.timestampEntries
  | .error _ => []

end Record

end MeterBridge.Session
