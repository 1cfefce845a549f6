import MeterBridge.Error
import MeterBridge.SortedMap

/-!
# Extraction rules

The length of a notification selects the rule by which telegrams are cut from it. A rule table has
one row per length, in ascending order, and may have a fallback for all other lengths. A table is
at fault if a row trims its notifications away or is content with an empty core, or if the fallback
trims. Whether anything can be cut by a row is not looked at beyond that.
-/

namespace MeterBridge

/-- How telegrams are cut from a notification. -/
inductive Rule where
  /-- The core is one telegram, if it has at least so many bytes. -/
  | singleFrame (leastCore : UInt64)
  /-- One telegram is left when so many bytes are dropped from both ends of the payload. -/
  | offsetTrim (leading trailing : UInt64)
  /-- Windows are cut from the core wherever an anchor occurs. -/
  | multiFrameScan
  deriving DecidableEq, Repr

/-- The name of a rule. -/
def Rule.name : Rule → String
  | .singleFrame _ => "single_frame"
  | .offsetTrim _ _ => "offset_trim"
  | .multiFrameScan => "multi_frame_scan"

/-- Where a rule was found. -/
inductive Rule.Source where
  /-- In the row of a length. -/
  | row (length : Nat)
  /-- It is the fallback. -/
  | fallback
  deriving DecidableEq, Repr

/-- A rule and where it was found. -/
structure Rule.Choice where
  /-- Where the rule was found. -/
  source : Rule.Source
  /-- The rule. -/
  rule : Rule
  deriving DecidableEq, Repr

namespace Rule.Choice

/-- The rule is the fallback. -/
def isFallback (c : Rule.Choice) : Bool := c.source = .fallback

/-- The source and the name of the rule. -/
def text (c : Rule.Choice) : String :=
  match c.source with
  | .row length => s!"{length}:{c.rule.name}"
  | .fallback => s!"fallback:{c.rule.name}"

end Rule.Choice

/-- Rules by the length of a notification. -/
structure RuleTable where
  /-- The rows: one rule for a length. -/
  rows : SortedMap UInt64 Rule
  /-- The rule for lengths without a row. -/
  fallback : Option Rule
  deriving DecidableEq

namespace RuleTable

/-- The table without rows and without a fallback. -/
def empty : RuleTable := { rows := .empty, fallback := none }

/-- The table with another rule for a length. -/
def insert (t : RuleTable) (length : UInt64) (rule : Rule) : RuleTable :=
  { t with rows := t.rows.insert length rule }

/-- The table with another fallback, or without one. -/
def withFallback (t : RuleTable) (fallback : Option Rule) : RuleTable := { t with fallback }

/-- The rule in the row of a length; lengths beyond 64 bits have no row. -/
def get? (t : RuleTable) (length : Nat) : Option Rule :=
  if length < UInt64.size then t.rows.get? (UInt64.ofNat length) else none

/-- The rule for notifications of a length: that of the row, or else the fallback. -/
def ruleFor (t : RuleTable) (length : Nat) : Except Error Rule.Choice :=
  match t.get? length, t.fallback with
  | some rule, _ => .ok { source := .row length, rule }
  | none, some rule => .ok { source := .fallback, rule }
  | none, none => .error (.noRule length)

/-- The table of some rows; of rows for one length the last one counts. -/
def ofRows (rows : List (UInt64 × Rule)) (fallback : Option Rule) : RuleTable :=
  { rows := .ofList rows, fallback }

/-- The table used unless another one is configured. -/
def standard : RuleTable :=
  ofRows [(59, .singleFrame 38), (70, .singleFrame 49), (96, .offsetTrim 54 4), (244, .multiFrameScan)]
    (some .multiFrameScan)

/-- The fault of a row: a trim that leaves nothing, or a single frame that may be empty. -/
def rowFault? (row : UInt64 × Rule) : Option ConfigFault :=
  match row.2 with
  | .offsetTrim leading trailing =>
    if row.1.toNat ≤ leading.toNat + trailing.toNat then
      some (.fruitlessTrim row.1 leading trailing)
    else none
  | .singleFrame leastCore => if leastCore = 0 then some (.zeroCoreLength row.1) else none
  | .multiFrameScan => none

/-- The fault of a fallback: how much is trimmed depends on the length. -/
def fallbackFault? : Option Rule → Option ConfigFault
  | some (.offsetTrim _ _) => some .trimAsFallback
  | _ => none

/-- The first fault of the table: that of a row, shorter lengths first, or of the fallback. -/
def fault? (t : RuleTable) : Option ConfigFault :=
  (t.rows.entries.findSome? rowFault?).or (fallbackFault? t.fallback)

end RuleTable

end MeterBridge
