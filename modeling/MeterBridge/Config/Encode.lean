import MeterBridge.Config
import MeterBridge.Json.Basic

/-!
# Configurations as JSON

How a configuration is written: records as objects with their fields in a fixed order, patterns as
strings of lowercase hexadecimal digits, a rule as an object with its name under `rule`, and the
rows of a rule table as an object whose keys are the lengths in decimal.
-/

namespace MeterBridge

/-- A meter as JSON. -/
def Meter.toJson (m : Meter) : Json :=
  .object [
    ("serial".toList, .ofNat m.serial.toNat),
    ("version".toList, .ofNat m.version.toNat),
    ("device_type".toList, .ofNat m.deviceType.toNat)]

/-- An anchor as JSON. -/
def Anchor.toJson (a : Anchor) : Json :=
  .object [
    ("pattern".toList, .string (Hex.lowerDigits a.pattern)),
    ("kind".toList, .string a.kind.name.toList),
    ("window".toList, .ofNat a.window.toNat)]

/-- A rule as JSON. -/
def Rule.toJson (r : Rule) : Json :=
  .object (("rule".toList, .string r.name.toList) :: match r with
    | .singleFrame leastCore => [("min_core_len".toList, .ofNat leastCore.toNat)]
    | .offsetTrim leading trailing =>
      [("prefix".toList, .ofNat leading.toNat), ("suffix".toList, .ofNat trailing.toNat)]
    | .multiFrameScan => [])

namespace RuleTable

/-- A row as a field, its length as the key. -/
def rowToField (row : UInt64 × Rule) : List Char × Json :=
  (Nat.toDigits 10 row.1.toNat, row.2.toJson)

/-- A rule table as JSON. -/
def toJson (t : RuleTable) : Json :=
  .object [
    ("entries".toList, .object (t.rows.entries.map rowToField)),
    ("fallback".toList, (t.fallback.map Rule.toJson).getD .null)]

end RuleTable

namespace Config

/-- The fields of a configuration. -/
def toFields (c : Config) : List (List Char × Json) :=
  [ ("meter".toList, c.meter.toJson),
    ("anchors".toList, .array (c.anchors.map Anchor.toJson)),
    ("rules".toList, c.rules.toJson),
    ("min_telegram_len".toList, .ofNat c.leastTelegram.toNat)]

/-- A configuration as JSON. -/
def toJson (c : Config) : Json := .object c.toFields

/-- A configuration as compact JSON text. -/
def toText (c : Config) : String := c.toJson.compact

end Config

end MeterBridge
