import MeterBridge.Proofs.History

/-!
# Actions

Whatever a receiver is used for, it does three things with itself: it takes another reading of the clock,
it counts, and it enters events, some of which are throttled. A call is a list of such actions
(`Receiver.actions`), and to call is to do them one after the other (`after_eq_foldl`, `afterAll_eq_foldl`).
The actions of a run are those of the items that the run comes to, and of its end.

In a call the clock stands still. When the clock goes on while a receiver is at work, the same is done, but
with readings of the clock anywhere between the actions (`Action.SameButClock`).
-/

namespace MeterBridge

namespace Receiver

/-- The kind of warning that an event is, if it is throttled. -/
def Event.warning? : Event → Option Warning
  | .unrecognized .. => some .unrecognizedLength
  | .rejected _ => some .rejected
  | _ => none

/-- What a receiver does with itself. -/
inductive Action where
  /-- It takes another reading of the clock. -/
  | wait (clock : Nat)
  /-- It adds to its statistics. -/
  | count (tally : Stats)
  /-- It enters an event into its journal, if the event is not throttled. -/
  | enter (event : Event)

namespace Action

/-- The clock is read. -/
def isWait : Action → Bool
  | wait _ => true
  | _ => false

/-- The kind of warning that is to be entered. -/
def warning? : Action → Option Warning
  | enter event => event.warning?
  | _ => none

/-- The same is done, at any readings of the clock. -/
def SameButClock (actions actions' : List Action) : Prop :=
  actions.filter (!·.isWait) = actions'.filter (!·.isWait)

/-- The warnings to be entered are the same. -/
theorem SameButClock.filterMap_warning? {actions actions' : List Action}
    (h : SameButClock actions actions') :
    actions.filterMap warning? = actions'.filterMap warning? := by
  have hfilter : ∀ as : List Action,
      as.filterMap warning? = (as.filter (!·.isWait)).filterMap warning? := by
    intro as
    rw [List.filterMap_filter]
    refine List.filterMap_congr fun a _ => ?_
    cases a <;> rfl
  rw [hfilter, hfilter actions', h]

end Action

/-- Enters an event, if it is not throttled. -/
def enter (r : Receiver) (event : Event) : Receiver :=
  match event.warning? with
  | some warning => r.warn warning event
  | none => r.report event

/-- The receiver after an action. -/
def act (r : Receiver) : Action → Receiver
  | .wait clock => r.atTime clock
  | .count tally => r.count tally
  | .enter event => r.enter event

/-! ### One notification -/

/-- What is reported of a verdict. -/
def verdictEvent (source : String) : Except Rejection Telegram → Event
  | .ok telegram => .accepted telegram source
  | .error rejection => .rejected rejection

/-- The events of an outcome. -/
def settlingEvents (source : String) (o : Outcome) : List Event :=
  o.extraction.remark.toList.map .remarked ++
    (if o.extraction.choice.isFallback then
      [.unrecognized o.extraction.declaredLength source o.extraction.choice.rule] else []) ++
    o.verdicts.map (verdictEvent source)

/-- The actions for an outcome. -/
def settling (source : String) (o : Outcome) : List Action :=
  .count (.ofOutcome o) :: (settlingEvents source o).map .enter

/-- The actions for a notification. -/
def processing (c : Config) (n : Notification) : List Action :=
  .enter (.received n.source n.payload) ::
    ((c.outcome n.payload).toOption.toList.flatMap (settling n.source))

theorem settle_eq_foldl (r : Receiver) (source : String) (o : Outcome) :
    r.settle source o = (settling source o).foldl act r := by
  have hverdict : reportVerdict source = fun r v => act r (.enter (verdictEvent source v)) := by
    funext r v
    cases v <;> rfl
  rw [settle, settling, settlingEvents, List.foldl_cons, List.foldl_map, List.foldl_append,
    List.foldl_append, List.foldl_map, hverdict]
  cases o.extraction.remark <;> cases hfallback : o.extraction.choice.isFallback <;>
    simp only [reportFallback, hfallback] <;> rfl

theorem process_snd_eq_foldl (r : Receiver) (n : Notification) :
    (r.process n).2 = (processing r.config n).foldl act r := by
  rw [process, processing]
  have hconfig : (r.report (.received n.source n.payload)).config = r.config := rfl
  rw [hconfig]
  cases r.config.outcome n.payload with
  | ok o => exact (settle_eq_foldl _ _ _).trans (by simp [Except.toOption]; rfl)
  | error e => rfl

/-! ### Runs -/

namespace Run

variable {σ α : Type} [Sink σ] {c : Config} {effect : α → Effect} {step : Run σ → α → Run σ}
  {give : Run σ × α → List Action}

/-- The actions for a line, or for one that cannot be read. -/
def reading (c : Config) (source : String) : Option String → List Action
  | none => []
  | some line =>
    match Line.read line with
    | .payload payload => processing c (.arriving payload source)
    | .nothing => [.count .ofSkippedLine]
    | .undecodable cause => [.enter (.undecodable cause), .count .ofSkippedLine]

/-- The actions for the end of a run. -/
def ending (run : Run σ) : List Action :=
  if run.failure.isNone && (Sink.flush run.sink).2 then [.enter (.ended run.receiver.stats)] else []

theorem takeLine_receiver {run : Run σ} (h : run.failure = none) (source : String)
    (line : Option String) : (run.takeLine source line).receiver =
      (reading run.receiver.config source line).foldl act run.receiver := by
  cases line with
  | none => rw [takeLine, h]; rfl
  | some line =>
    rw [takeLine, h]
    simp only [Option.isSome_none, Bool.false_eq_true, if_false, reading]
    cases Line.read line with
    | payload payload => exact (take_receiver h _).trans (process_snd_eq_foldl _ _)
    | nothing => rfl
    | undecodable cause => rfl

theorem finish_receiver (run : Run σ) :
    run.finish.receiver = run.ending.foldl act run.receiver := by
  rw [finish, ending]
  cases run.failure with
  | some e => rfl
  | none =>
    rcases hflush : Sink.flush run.sink with ⟨sink, flushed⟩
    cases flushed <;> rfl

/-- The actions of a run over items, if each item that the run comes to has these actions. -/
theorem Follows.finish_receiver_eq_foldl (hstep : Follows c effect step)
    (hgive : ∀ {run : Run σ} a, run.failure = none →
      (step run a).receiver = (give (run, a)).foldl act run.receiver)
    (run : Run σ) (items : List α) : (items.foldl step run).finish.receiver =
      ((reached step run items).flatMap give ++ (items.foldl step run).ending).foldl act run.receiver := by
  rw [finish_receiver, List.foldl_append]
  congr 1
  induction items generalizing run with
  | nil => rfl
  | cons a rest ih =>
    cases hfailure : run.failure with
    | some e => rw [hstep.foldl_of_failure hfailure, reached_of_failure hfailure]; rfl
    | none =>
      rw [List.foldl_cons, ih, reached_cons hfailure, List.flatMap_cons, List.foldl_append,
        hgive a hfailure]

end Run

/-! ### Calls -/

/-- The actions of a call. -/
def actions (r : Receiver) : Call → List Action
  | .process n => processing r.config n
  | .processBare payload => processing r.config (.arriving payload "-")
  | @Call.run _ _ sink ns =>
    let start := { receiver := r, sink, failure := none }
    (Run.reached Run.take start ns).flatMap (fun x => processing x.1.receiver.config x.2) ++
      (ns.foldl Run.take start).ending
  | @Call.runText _ _ sink source text =>
    let start := { receiver := r, sink, failure := none }
    let lines := Text.utf8Lines text
    (Run.reached (Run.takeLine source) start lines).flatMap
        (fun x => Run.reading x.1.receiver.config source x.2) ++
      (lines.foldl (Run.takeLine source) start).ending
  | .wait clock => [.wait clock]

/-- A call is its actions. -/
theorem after_eq_foldl (r : Receiver) (call : Call) :
    r.after call = (r.actions call).foldl act r := by
  cases call with
  | process n => exact process_snd_eq_foldl r n
  | processBare payload => exact process_snd_eq_foldl r _
  | run sink ns =>
    exact (Run.follows_take r.config).finish_receiver_eq_foldl
      (fun n h => (Run.take_receiver h n).trans (process_snd_eq_foldl _ n)) _ ns
  | runText sink source text =>
    exact (Run.follows_takeLine r.config source).finish_receiver_eq_foldl
      (fun line h => Run.takeLine_receiver h source line) _ _
  | wait clock => rfl

/-- A history is the actions of its calls. -/
theorem afterAll_eq_foldl (r : Receiver) (calls : List Call) :
    r.afterAll calls = (r.gather actions calls).foldl act r := by
  induction calls generalizing r with
  | nil => rfl
  | cons call rest ih =>
    rw [gather, List.foldl_append, ← after_eq_foldl]
    exact ih (r.after call)

end Receiver

end MeterBridge
