import MeterBridge.Hex

/-!
# Errors

The hard failures of the library, each by its cause. A notification that yields nothing is no
error; only a faulty configuration, text that cannot be read, a rule table without an answer and
failures at the edges are. Every error but the missing rule belongs to a category, which fixes the
words in front of its details.
-/

namespace MeterBridge

/-- What makes a configuration unusable. -/
inductive ConfigFault where
  /-- There is no anchor. -/
  | noAnchor
  /-- An anchor has no pattern. -/
  | emptyAnchor (index : Nat)
  /-- The window of an anchor ends before the meter address does. -/
  | narrowWindow (index : Nat) (window : UInt64)
  /-- The window of an anchor is longer than any telegram. -/
  | wideWindow (index : Nat) (window : UInt64)
  /-- An earlier anchor has the same pattern. -/
  | repeatedAnchor (index : Nat)
  /-- The serial number of the meter has more than eight digits. -/
  | wideSerial (serial : UInt32)
  /-- A text is no serial number. -/
  | notSerial (text : String)
  /-- Telegrams of no length at all would do. -/
  | zeroLeastLength
  /-- A row trims the whole notification away. -/
  | fruitlessTrim (length leading trailing : UInt64)
  /-- A row takes cores of no length at all. -/
  | zeroCoreLength (length : UInt64)
  /-- The fallback trims by fixed offsets. -/
  | trimAsFallback
  deriving DecidableEq, Repr

/-- The length of the longest telegram. -/
def longestTelegram : Nat := 256

/-- The words for a fault of the configuration. -/
def ConfigFault.message : ConfigFault → String
  | .noAnchor => "at least one anchor pattern is required"
  | .emptyAnchor index => s!"anchor #{index} is empty"
  | .narrowWindow index window =>
    s!"anchor #{index} window of {window} bytes cannot hold the anchor and meter address"
  | .wideWindow index window =>
    s!"anchor #{index} window of {window} bytes exceeds the {longestTelegram}-byte telegram limit"
  | .repeatedAnchor index => s!"anchor #{index} is listed twice"
  | .wideSerial serial => s!"meter serial {serial} does not fit 8 BCD digits"
  | .notSerial text => "meter serial must be up to 8 digits, got " ++ Text.quoted text
  | .zeroLeastLength => "min_telegram_len must be positive"
  | .fruitlessTrim length leading trailing =>
    s!"offset_trim for {length}-byte notifications leaves no frame "
      ++ s!"({leading}+{trailing} bytes trimmed)"
  | .zeroCoreLength length =>
    s!"single_frame for {length}-byte notifications needs min_core_len > 0"
  | .trimAsFallback => "offset_trim cannot be the fallback rule: offsets depend on the length"

/-- A failure. -/
inductive Error where
  /-- The rule table has no answer for a notification of this length. -/
  | noRule (length : Nat)
  /-- The configuration is unusable. -/
  | config (fault : ConfigFault)
  /-- A text is not hexadecimal. -/
  | hex (cause : Hex.Error)
  /-- A text is no session record. -/
  | record
  /-- A line of the input is not UTF-8. -/
  | unreadableLine
  /-- The writer takes no more. -/
  | writerFull
  /-- A text is not the JSON that is wanted. -/
  | json
  deriving DecidableEq, Repr

namespace Error

/-- The categories of failures. -/
inductive Category where
  /-- An unusable configuration. -/
  | config
  /-- A text that is not hexadecimal. -/
  | hex
  /-- A text that is no session record. -/
  | record
  /-- A failure while reading or writing. -/
  | io
  /-- A text that is not the JSON that is wanted. -/
  | json
  /-- Any other failure. -/
  | other
  deriving DecidableEq, Repr

/-- The words that open the messages of a category. -/
def Category.heading : Category → String
  | .config => "Invalid configuration"
  | .hex => "Invalid hexadecimal string"
  | .record => "Invalid session record"
  | .io => "I/O error"
  | .json => "JSON error"
  | .other => "Other error"

/-- The message of a failure in a category, with its details. -/
def Category.report (category : Category) (details : String) : String :=
  category.heading ++ ": " ++ details

/-- The message of a failure. -/
def message : Error → String
  | .noRule length => s!"No extraction rule for declared length {length} bytes"
  | .config fault => Category.config.report fault.message
  | .hex cause => Category.hex.report cause.message
  | .record => Category.record.report "not a record of a captured notification"
  | .unreadableLine => Category.io.report "stream did not contain valid UTF-8"
  | .writerFull => Category.io.report "failed to write whole buffer"
  | .json => Category.json.report "not of the form that is wanted"

end Error

end MeterBridge
