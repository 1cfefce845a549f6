import MeterBridge.Anchor
import MeterBridge.Rule

/-!
# Configurations

What a receiver has to know: the meter it listens for, the anchors of its telegrams, the rules for
its notifications, and the least length of a telegram. A configuration can be written down with
any values; `fault?` finds the first reason why a receiver would refuse it.
-/

namespace MeterBridge

/-- What a receiver has to know. -/
structure Config where
  /-- The meter whose telegrams are accepted. -/
  meter : Meter
  /-- The anchors of its telegrams. -/
  anchors : List Anchor
  /-- The rules for notifications. -/
  rules : RuleTable
  /-- The least length of a telegram. -/
  leastTelegram : UInt64
  deriving DecidableEq

namespace Config

/-- The configuration for the standard meter. -/
def standard : Config :=
  { meter := .standard, anchors := [.compact, .full], rules := .standard, leastTelegram := 10 }

/-- The configuration with another meter. -/
def withMeter (c : Config) (meter : Meter) : Config := { c with meter }

/-- The configuration with another rule table. -/
def withRules (c : Config) (rules : RuleTable) : Config := { c with rules }

/-- The fault of an anchor at its place in the list. -/
def anchorFault? (anchors : List Anchor) (place : Anchor × Nat) : Option ConfigFault :=
  let (anchor, index) := place
  let window := anchor.window.toNat
  if anchor.pattern.isEmpty then some (.emptyAnchor index)
  else if window < anchor.pattern.length + Meter.wireLength then
    some (.narrowWindow index anchor.window)
  else if longestTelegram < window then some (.wideWindow index anchor.window)
  else if (anchors.take index).any (·.pattern = anchor.pattern) then some (.repeatedAnchor index)
  else none

/-- The first fault of a list of anchors. -/
def anchorsFault? (anchors : List Anchor) : Option ConfigFault :=
  if anchors.isEmpty then some .noAnchor else anchors.zipIdx.findSome? (anchorFault? anchors)

/-- The first fault: that of the anchors, the meter, the least length or the rules. -/
def fault? (c : Config) : Option ConfigFault :=
  (anchorsFault? c.anchors).or <|
  (if Meter.greatestSerial < c.meter.serial.toNat then some (.wideSerial c.meter.serial)
    else none).or <|
  (if c.leastTelegram = 0 then some .zeroLeastLength else none).or c.rules.fault?

/-- A receiver can be built from the configuration. -/
def IsValid (c : Config) : Prop := c.fault? = none

instance (c : Config) : Decidable c.IsValid := inferInstanceAs (Decidable (_ = none))

/-- The configuration, unless it has a fault. -/
def checked (c : Config) : Except Error Config :=
  match c.fault? with
  | none => .ok c
  | some fault => .error (.config fault)

end Config

end MeterBridge
