import MeterBridge.Output
import MeterBridge.Receiver.Event
import MeterBridge.Text.Lines
import MeterBridge.Throttle

/-!
# Receivers

A receiver turns notifications into telegrams. It has a configuration without fault, and it keeps
statistics, throttles for two kinds of warnings, and a journal of events. These never bear on what
becomes of a notification: that is `Config.outcome`. A receiver is run over notifications or over
lines of text, and hands the telegrams to a sink. A failure ends the run; what happened before it
stays.
-/

namespace MeterBridge

/-- The kinds of warnings that are throttled. -/
inductive Receiver.Warning where
  /-- The fallback is used for a length. -/
  | unrecognizedLength
  /-- A candidate is rejected. -/
  | rejected
  deriving DecidableEq, Repr

/-- What turns notifications into telegrams. -/
structure Receiver where
  /-- The configuration. -/
  config : Config
  /-- The configuration has no fault. -/
  isValid : config.IsValid
  /-- What has been processed. -/
  stats : Stats
  /-- The throttles of repeated warnings. -/
  throttles : Throttle.Bank Receiver.Warning
  /-- The reading of the clock, in milliseconds. -/
  clock : Nat
  /-- What has been reported, oldest first. -/
  journal : Array Receiver.Event

namespace Receiver

/-- The length of the window of throttles in milliseconds. -/
def throttleWindow : Nat := 1000

/-- How many warnings of a kind a window lets through. -/
def throttleCap : Nat := 5

/-- A receiver that has processed nothing. -/
def new (config : Config) : Except Error Receiver :=
  match h : config.fault? with
  | some fault => .error (.config fault)
  | none =>
    .ok {
      config, isValid := h, stats := .zero, throttles := .new throttleWindow throttleCap,
      clock := 0, journal := #[] }

/-- The receiver at another reading of the clock. -/
def atTime (r : Receiver) (clock : Nat) : Receiver := { r with clock }

/-- What has been reported, as log entries. -/
def entries (r : Receiver) : List Log.Entry := r.journal.toList.flatMap Event.entries

/-! ### One notification -/

/-- Enters an event into the journal. -/
def report (r : Receiver) (event : Event) : Receiver := { r with journal := r.journal.push event }

/-- Enters a warning into the journal, if the throttle of its kind lets it through. -/
def warn (r : Receiver) (warning : Warning) (event : Event) : Receiver :=
  let (allowed, throttles) := r.throttles.allow warning r.clock
  let r := { r with throttles }
  if allowed then r.report event else r

/-- Adds to the statistics. -/
def count (r : Receiver) (tally : Stats) : Receiver := { r with stats := r.stats + tally }

/-- Reports a verdict. -/
def reportVerdict (source : String) (r : Receiver) : Except Rejection Telegram → Receiver
  | .ok telegram => r.report (.accepted telegram source)
  | .error rejection => r.warn .rejected (.rejected rejection)

/-- Reports the remark of an extraction. -/
def reportRemark (r : Receiver) : Option Extraction.Remark → Receiver
  | some remark => r.report (.remarked remark)
  | none => r

/-- Reports that a rule is the fallback. -/
def reportFallback (r : Receiver) (source : String) (e : Extraction) : Receiver :=
  if e.choice.isFallback then
    r.warn .unrecognizedLength (.unrecognized e.declaredLength source e.choice.rule)
  else r

/-- Counts an outcome and reports it. -/
def settle (r : Receiver) (source : String) (o : Outcome) : Receiver :=
  let r := r.count (.ofOutcome o)
  let r := (r.reportRemark o.extraction.remark).reportFallback source o.extraction
  o.verdicts.foldl (reportVerdict source) r

/-- Processes a notification: what becomes of it, and the receiver afterwards. -/
def process (r : Receiver) (n : Notification) : Except Error Outcome × Receiver :=
  let r := r.report (.received n.source n.payload)
  match r.config.outcome n.payload with
  | .ok o => (.ok o, r.settle n.source o)
  | .error e => (.error e, r)

/-- Processes a bare payload. -/
def processBare (r : Receiver) (payload : Bytes) : Except Error Outcome × Receiver :=
  r.process (.arriving payload "-")

/-! ### Runs -/

/-- A receiver and a sink during a run, and what ended the run before its time. -/
structure Run (σ : Type) where
  /-- The receiver. -/
  receiver : Receiver
  /-- The sink. -/
  sink : σ
  /-- What ended the run. -/
  failure : Option Error

namespace Run

variable {σ : Type}

/-- The statistics of the receiver, or what ended the run before its time. -/
def result (run : Run σ) : Except Error Stats :=
  match run.failure with
  | some e => .error e
  | none => .ok run.receiver.stats

variable [Sink σ]

/-- The end of the run: the sink is flushed and the end is reported, unless the run has ended before
its time. -/
def finish (run : Run σ) : Run σ :=
  if run.failure.isSome then run
  else match Sink.flush run.sink with
    | (sink, true) => { run with receiver := run.receiver.report (.ended run.receiver.stats), sink }
    | (sink, false) => { run with sink, failure := some .writerFull }

/-- Processes a notification and hands its telegrams to the sink, unless the run has ended. -/
def take (run : Run σ) (n : Notification) : Run σ :=
  if run.failure.isSome then run
  else match run.receiver.process n with
    | (.error e, receiver) => { run with receiver, failure := some e }
    | (.ok o, receiver) =>
      match Sink.takeAll run.sink o.telegrams with
      | (sink, true) => { receiver, sink, failure := none }
      | (sink, false) => { receiver, sink, failure := some .writerFull }

/-- Reads a line from a source, unless the run has ended. A line without a payload is counted. -/
def takeLine (source : String) (run : Run σ) (line : Option String) : Run σ :=
  if run.failure.isSome then run
  else match line with
    | none => { run with failure := some .unreadableLine }
    | some line =>
      match Line.read line with
      | .payload payload => run.take (.arriving payload source)
      | .nothing => { run with receiver := run.receiver.count .ofSkippedLine }
      | .undecodable cause =>
        { run with receiver := (run.receiver.report (.undecodable cause)).count .ofSkippedLine }

end Run

variable {σ : Type} [Sink σ]

/-- Runs over notifications. -/
def run (r : Receiver) (sink : σ) (ns : List Notification) : Run σ :=
  (ns.foldl Run.take { receiver := r, sink, failure := none }).finish

/-- Runs over the notifications of a session log. -/
def runSession (r : Receiver) (sink : σ) (text : String) : Run σ :=
  (r.report (.sessionRead (Session.items text))).run sink (Session.notifications text)

/-- Runs over the lines of a text. -/
def runText (r : Receiver) (sink : σ) (source : String) (text : Bytes) : Run σ :=
  ((Text.utf8Lines text).foldl (Run.takeLine source)
    { receiver := r, sink, failure := none }).finish

end Receiver

end MeterBridge
