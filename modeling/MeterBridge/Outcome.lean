import MeterBridge.Telegram

/-!
# Outcomes and statistics

The outcome of a payload is what its rule cuts out, with a verdict on each candidate. It depends
on the configuration and the payload alone. Statistics count outcomes; each outcome adds its own
tally, so the statistics of several outcomes are the sum of their tallies in any order.
-/

namespace MeterBridge

/-- What becomes of a payload. -/
structure Outcome where
  /-- What the rule cuts out. -/
  extraction : Extraction
  /-- The verdicts on its candidates, in their order. -/
  verdicts : List (Except Rejection Telegram)

namespace Outcome

/-- The rejection in a verdict. -/
def rejection? : Except Rejection Telegram → Option Rejection
  | .error r => some r
  | .ok _ => none

/-- The accepted telegrams, in the order of the candidates. -/
def telegrams (o : Outcome) : List Telegram := o.verdicts.filterMap (·.toOption)

/-- The rejections, in the order of the candidates. -/
def rejections (o : Outcome) : List Rejection := o.verdicts.filterMap rejection?

end Outcome

/-- What becomes of a payload under a configuration. -/
def Config.outcome (c : Config) (payload : Bytes) : Except Error Outcome := do
  let extraction ← c.extract payload
  return { extraction, verdicts := extraction.candidates.map c.judge }

/-- Counts of what has been processed. -/
structure Stats where
  /-- Notifications processed. -/
  notifications : Nat
  /-- Notifications with a telegram. -/
  productive : Nat
  /-- Telegrams. -/
  telegrams : Nat
  /-- Candidates that were too short. -/
  tooShort : Nat
  /-- Candidates without an anchor at their start. -/
  badAnchor : Nat
  /-- Candidates with another address. -/
  idMismatch : Nat
  /-- Candidates whose first byte miscounts. -/
  lengthByteMismatch : Nat
  /-- Notifications that the fallback was used for. -/
  unrecognizedLength : Nat
  /-- Notifications with an incomplete tail. -/
  incompleteTail : Nat
  /-- Lines without a payload. -/
  skippedLines : Nat
  deriving DecidableEq, Repr

namespace Stats

/-- Nothing has been processed. -/
def zero : Stats :=
  { notifications := 0, productive := 0, telegrams := 0, tooShort := 0, badAnchor := 0,
    idMismatch := 0, lengthByteMismatch := 0, unrecognizedLength := 0, incompleteTail := 0,
    skippedLines := 0 }

/-- The counts of two lots together. -/
def add (a b : Stats) : Stats :=
  { notifications := a.notifications + b.notifications
    productive := a.productive + b.productive
    telegrams := a.telegrams + b.telegrams
    tooShort := a.tooShort + b.tooShort
    badAnchor := a.badAnchor + b.badAnchor
    idMismatch := a.idMismatch + b.idMismatch
    lengthByteMismatch := a.lengthByteMismatch + b.lengthByteMismatch
    unrecognizedLength := a.unrecognizedLength + b.unrecognizedLength
    incompleteTail := a.incompleteTail + b.incompleteTail
    skippedLines := a.skippedLines + b.skippedLines }

instance : Add Stats := ⟨add⟩

/-- A rejection for a reason. -/
def ofReason : Rejection.Reason → Stats
  | .tooShort => { zero with tooShort := 1 }
  | .badAnchor => { zero with badAnchor := 1 }
  | .idMismatch => { zero with idMismatch := 1 }
  | .lengthByteMismatch => { zero with lengthByteMismatch := 1 }

/-- A line without a payload. -/
def ofSkippedLine : Stats := { zero with skippedLines := 1 }

/-- Rejections for some reasons. -/
def ofReasons (reasons : List Rejection.Reason) : Stats :=
  reasons.foldl (fun s reason => s + ofReason reason) zero

/-- The tally of one outcome. -/
def ofOutcome (o : Outcome) : Stats :=
  ofReasons (o.rejections.map (·.reason)) + { zero with
    notifications := 1
    productive := if o.telegrams.isEmpty then 0 else 1
    telegrams := o.telegrams.length
    unrecognizedLength := if o.extraction.choice.isFallback then 1 else 0
    incompleteTail := if o.extraction.hasIncompleteTail then 1 else 0 }

/-- The rejected candidates. -/
def rejected (s : Stats) : Nat := s.tooShort + s.badAnchor + s.idMismatch + s.lengthByteMismatch

/-- The statistics in one line for people to read. -/
def summary (s : Stats) : String :=
  s!"{s.notifications} notifications -> {s.telegrams} telegrams ({s.rejected} rejected, "
    ++ s!"{s.unrecognizedLength} unrecognized length, {s.incompleteTail} incomplete trailing)"

end Stats

end MeterBridge
