import MeterBridge.Config
import MeterBridge.Json.Decode

/-!
# Configurations from JSON

How a configuration is read. A configuration or a rule table may leave fields out, which then have
their standard values; a meter and an anchor may not. A rule is kept as it stands until its name is
known, so all of it has to be keepable, also fields that no rule has.
-/

namespace MeterBridge

/-- A meter from JSON. -/
def Meter.ofJson? (j : Json) : Option Meter := do
  match ← j.record? [["serial"], ["version"], ["device_type"]] 3 with
  | [some serial, some version, some deviceType] =>
    return {
      serial := ← serial.uint32?
      version := ← version.uint8?
      deviceType := ← deviceType.uint8? }
  | _ => none

/-- A kind of telegram by its name. -/
def TelegramKind.ofName? (name : String) : Option TelegramKind :=
  [TelegramKind.compact, .full, .unknown].find? (·.name = name)

/-- A kind of telegram from JSON. -/
def TelegramKind.ofJson? (j : Json) : Option TelegramKind := j.name?.bind ofName?

/-- A pattern from JSON: a string of pairs of hexadecimal digits. -/
def Anchor.patternOfJson? (j : Json) : Option Bytes :=
  j.text?.bind fun text => Hex.pairs? text.toList

/-- An anchor from JSON. -/
def Anchor.ofJson? (j : Json) : Option Anchor := do
  match ← j.record? [["pattern"], ["kind"], ["window"]] 3 with
  | [some pattern, some kind, some window] =>
    return {
      pattern := ← patternOfJson? pattern
      kind := ← TelegramKind.ofJson? kind
      window := ← window.uint64? }
  | _ => none

namespace Rule

/-- The rule of a name, its parameters taken from the rest of its record. -/
def ofBody? (name : String) (body : Json) : Option Rule := do
  if name = "single_frame" then
    match ← body.record? [["min_core_len"]] 1 with
    | [some leastCore] => return .singleFrame (← leastCore.uint64?)
    | _ => none
  else if name = "offset_trim" then
    match ← body.record? [["prefix"], ["suffix"]] 2 with
    | [some leading, some trailing] => return .offsetTrim (← leading.uint64?) (← trailing.uint64?)
    | _ => none
  else if name = "multi_frame_scan" then
    match ← body.record? [] 0 with
    | [] => return .multiFrameScan
    | _ => none
  else none

/-- The name of a rule and the rest of its record. The name is under the key `rule` of an object,
once, or in front of an array. -/
def nameAndBody? : Json → Option (Json × Json)
  | .object fields =>
    match fields.partition fun field => Json.literalText? field.1 = some "rule" with
    | ([(_, name)], rest) => some (name, .object rest)
    | _ => none
  | .array (name :: rest) => some (name, .array rest)
  | _ => none

/-- A rule from JSON that may nest `room` arrays and objects. -/
def ofJson? (room : Nat) (j : Json) : Option Rule := do
  if !j.isKeepable room then none
  let (name, body) ← nameAndBody? j
  ofBody? (← name.text?) body

end Rule

namespace RuleTable

/-- A row from a field whose key is a length in plain decimal digits. -/
def rowOfField? (room : Nat) (field : List Char × Json) : Option (UInt64 × Rule) := do
  let length ← (Json.number field.1).uint64?
  let rule ← Rule.ofJson? room field.2
  return (length, rule)

/-- The rows from the object that holds them. -/
def rowsOfJson? (room : Nat) : Json → Option (List (UInt64 × Rule))
  | .object fields => fields.mapM (rowOfField? room)
  | _ => none

/-- A rule table from JSON that stands inside `depth` arrays and objects. -/
def ofJson? (depth : Nat) (j : Json) : Option RuleTable := do
  match ← j.record? [["entries"], ["fallback"]] 0 with
  | [entries, fallback] =>
    let rows ← Json.optional? (rowsOfJson? (Json.deepest - depth - 2)) [] entries
    let fallback ←
      Json.optional? (Json.nullable? (Rule.ofJson? (Json.deepest - depth - 1))) none fallback
    return .ofRows rows fallback
  | _ => none

end RuleTable

namespace Config

/-- A configuration from JSON, with any values. -/
def ofJson? (j : Json) : Option Config := do
  match ← j.record? [["meter"], ["anchors"], ["rules"], ["min_telegram_len"]] 0 with
  | [meter, anchors, rules, leastTelegram] =>
    return {
      meter := ← Json.optional? Meter.ofJson? standard.meter meter
      anchors := ← Json.optional? (Json.items? Anchor.ofJson?) standard.anchors anchors
      rules := ← Json.optional? (RuleTable.ofJson? 1) standard.rules rules
      leastTelegram := ← Json.optional? Json.uint64? standard.leastTelegram leastTelegram }
  | _ => none

/-- A configuration from JSON text, with any values. -/
def read (text : String) : Except Error Config :=
  match (Json.parse? text).bind ofJson? with
  | some c => .ok c
  | none => .error .json

/-- A configuration without fault from JSON text. -/
def load (text : String) : Except Error Config := do
  let c ← read text
  c.checked

end Config

end MeterBridge
