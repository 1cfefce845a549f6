import MeterBridge.Proofs.Run
import MeterBridge.Proofs.Sink
import MeterBridge.Proofs.Tally
import Mathlib.Data.List.TakeWhile

/-!
# Effects of input

What an item of input does to a run — be it a notification or a line — is decided by the configuration
and the item: either it ends the run, or it has a tally for the statistics and telegrams for the sink.
`Follows` says this of one step of a run. It is proved for notifications and for lines, and one induction
carries it over to runs (`Follows.course`). Items are counted whatever the sink does; with a reliable sink
nothing but an item can end a run, so everything is decided by the items (`isOver_run`,
`isOver_runText`).
-/

namespace MeterBridge

/-- What an item of input does to a run. -/
inductive Effect where
  /-- It ends the run. -/
  | failure (e : Error)
  /-- It is counted, and it hands telegrams to the sink. -/
  | share (tally : Stats) (telegrams : List Telegram)

namespace Effect

/-- What the item ends the run with. -/
def failure? : Effect → Option Error
  | failure e => some e
  | share .. => none

/-- What the item adds to the statistics. -/
def tally : Effect → Stats
  | failure _ => 0
  | share tally _ => tally

/-- What the item hands to the sink. -/
def telegrams : Effect → List Telegram
  | failure _ => []
  | share _ telegrams => telegrams

/-- An item that ends the run is not counted. -/
theorem tally_eq_zero {effect : Effect} {e : Error} (h : effect.failure? = some e) :
    effect.tally = 0 := by
  cases effect with
  | failure e' => rfl
  | share tally telegrams => cases h

/-- It hands nothing to the sink. -/
theorem telegrams_eq_nil {effect : Effect} {e : Error} (h : effect.failure? = some e) :
    effect.telegrams = [] := by
  cases effect with
  | failure e' => rfl
  | share tally telegrams => cases h

/-! ### Several items -/

section Items

variable {α : Type} (effect : α → Effect)

/-- What the first item that ends the run ends it with. -/
def firstFailure? (items : List α) : Option Error := items.findSome? fun a => (effect a).failure?

/-- The items before the first one that ends the run. -/
def before (items : List α) : List α := items.takeWhile fun a => (effect a).failure?.isNone

/-- What items add to the statistics together. -/
def tallies (items : List α) : Stats := (items.map fun a => (effect a).tally).sum

/-- What items hand to the sink, one after the other. -/
def allTelegrams (items : List α) : List Telegram := items.flatMap fun a => (effect a).telegrams

variable {effect} {xs ys : List α} {a : α} {e : Error}

theorem firstFailure?_eq_none_iff :
    firstFailure? effect xs = none ↔ ∀ x ∈ xs, (effect x).failure? = none :=
  List.findSome?_eq_none_iff

theorem firstFailure?_cons (h : (effect a).failure? = none) (xs : List α) :
    firstFailure? effect (a :: xs) = firstFailure? effect xs := by
  rw [firstFailure?, List.findSome?_cons_of_isNone (by rw [h]; rfl), firstFailure?]

theorem firstFailure?_append :
    firstFailure? effect (xs ++ ys) = (firstFailure? effect xs).or (firstFailure? effect ys) :=
  List.findSome?_append

theorem before_cons (h : (effect a).failure? = none) (xs : List α) :
    before effect (a :: xs) = a :: before effect xs := by
  rw [before, List.takeWhile_cons_of_pos (by rw [h]; rfl), before]

theorem before_cons_of_some (h : (effect a).failure? = some e) (xs : List α) :
    before effect (a :: xs) = [] := by
  rw [before, List.takeWhile_cons_of_neg (by rw [h]; simp)]

/-- If no item ends the run, then none is left out. -/
theorem before_append (h : firstFailure? effect xs = none) (ys : List α) :
    before effect (xs ++ ys) = xs ++ before effect ys := by
  have hxs := firstFailure?_eq_none_iff.1 h
  rw [before, List.takeWhile_append_of_pos fun x hx => by rw [hxs x hx]; rfl, before]

theorem before_eq_self (h : firstFailure? effect xs = none) : before effect xs = xs := by
  refine List.takeWhile_eq_self_iff.2 fun x hx => ?_
  rw [firstFailure?_eq_none_iff.1 h x hx]
  rfl

/-- Otherwise nothing counts that comes after it. -/
theorem before_append_of_some (h : firstFailure? effect xs = some e) (ys : List α) :
    before effect (xs ++ ys) = before effect xs := by
  induction xs with
  | nil => cases h
  | cons x xs ih =>
    cases hx : (effect x).failure? with
    | none =>
      rw [firstFailure?_cons hx] at h
      rw [List.cons_append, before_cons hx, before_cons hx, ih h]
    | some e' => rw [List.cons_append, before_cons_of_some hx, before_cons_of_some hx]

variable (effect a xs) in
theorem tallies_cons : tallies effect (a :: xs) = (effect a).tally + tallies effect xs := by
  rw [tallies, List.map_cons, List.sum_cons, tallies]

variable (effect a xs) in
theorem allTelegrams_cons :
    allTelegrams effect (a :: xs) = (effect a).telegrams ++ allTelegrams effect xs := by
  rw [allTelegrams, List.flatMap_cons, allTelegrams]

theorem tallies_append : tallies effect (xs ++ ys) = tallies effect xs + tallies effect ys := by
  rw [tallies, List.map_append, List.sum_append, tallies, tallies]

theorem allTelegrams_append :
    allTelegrams effect (xs ++ ys) = allTelegrams effect xs ++ allTelegrams effect ys :=
  List.flatMap_append

end Items

end Effect

/-! ### Lengths without a rule -/

/-- A payload has no outcome if there is no rule for its length, and for no other cause. -/
theorem Config.outcome_eq_error_iff {c : Config} {payload : Bytes} {e : Error} :
    c.outcome payload = .error e ↔
      c.rules.LacksRule payload.length ∧ e = .noRule payload.length := by
  rw [← extract_eq_error_iff, outcome]
  cases c.extract payload with
  | error e' => simp [bind, Except.bind]
  | ok extraction => simp [bind, Except.bind, pure, Except.pure]

/-- The standard configuration, but with a rule for one length only. -/
def Config.oneRow : Config := Config.standard.withRules (.ofRows [(94, .multiFrameScan)] none)

/-! ### Notifications and lines -/

namespace Config

/-- The effect of a notification. -/
def effect (c : Config) (payload : Bytes) : Effect :=
  match c.outcome payload with
  | .ok o => .share (.ofOutcome o) o.telegrams
  | .error e => .failure e

/-- The effect of a line, or of one that cannot be read. -/
def lineEffect (c : Config) : Option String → Effect
  | none => .failure .unreadableLine
  | some line =>
    match Line.payload? line with
    | some payload => c.effect payload
    | none => .share .ofSkippedLine []

variable {c : Config} {payload : Bytes} {line : String}

theorem effect_of_ok {o : Outcome} (h : c.outcome payload = .ok o) :
    c.effect payload = .share (.ofOutcome o) o.telegrams := by rw [effect, h]

theorem effect_of_error {e : Error} (h : c.outcome payload = .error e) :
    c.effect payload = .failure e := by rw [effect, h]

/-- A notification ends a run if there is no rule for its length. -/
theorem failure?_effect {e : Error} : (c.effect payload).failure? = some e ↔
    c.rules.LacksRule payload.length ∧ e = .noRule payload.length := by
  rw [← outcome_eq_error_iff, effect]
  cases c.outcome payload with
  | ok o => simp [Effect.failure?]
  | error e' => simp [Effect.failure?]

theorem lineEffect_of_payload (h : Line.payload? line = some payload) :
    c.lineEffect (some line) = c.effect payload := by rw [lineEffect, h]

theorem lineEffect_of_skipped (h : Line.payload? line = none) :
    c.lineEffect (some line) = .share .ofSkippedLine [] := by rw [lineEffect, h]

/-- The tally of a notification accounts for its outcome, if it has one. -/
theorem accounts_effect (c : Config) (payload : Bytes) :
    Stats.Accounts (c.outcome payload).toOption.toList 0 (c.effect payload).tally := by
  cases h : c.outcome payload with
  | ok o =>
    rw [effect_of_ok h]
    refine Stats.accounts_ofOutcome ?_
    rw [(outcome_eq_ok_iff.1 h).2, List.length_map]
  | error e =>
    rw [effect_of_error h]
    exact Stats.accounts_zero

end Config

namespace Receiver

/-- A notification adds its tally, if it has an outcome, and else nothing. -/
theorem process_tally (r : Receiver) (n : Notification) :
    (r.process n).2.stats = r.stats + (r.config.effect n.payload).tally := by
  cases h : r.config.outcome n.payload with
  | ok o =>
    rw [process_stats ((r.process_fst n).trans h), Config.effect_of_ok h]
    rfl
  | error e =>
    rw [process_stats_of_error ((r.process_fst n).trans h), Config.effect_of_error h]
    exact (add_zero r.stats).symm

namespace Run

variable {σ : Type} [Sink σ] {α : Type} {c : Config} {effect : α → Effect}
  {step : Run σ → α → Run σ} {run start : Run σ} {source : String}

/-! ### One step -/

/-- A run that has not ended takes an item by its effect. -/
structure Follows (c : Config) (effect : α → Effect) (step : Run σ → α → Run σ) : Prop where
  /-- A run that has ended does not go on. -/
  ended : ∀ {run e} a, run.failure = some e → step run a = run
  /-- The configuration is kept. -/
  config : ∀ run a, (step run a).receiver.config = run.receiver.config
  /-- The item is counted, whatever the sink does. -/
  stats : ∀ {run} a, run.failure = none → run.receiver.config = c →
    (step run a).receiver.stats = run.receiver.stats + (effect a).tally
  /-- A reliable sink is given the telegrams, and only the item can end the run. -/
  reliable : ∀ {run} a, run.failure = none → run.receiver.config = c → Sink.IsReliable run.sink →
    (step run a).sink = Sink.given run.sink (effect a).telegrams ∧
      (step run a).failure = (effect a).failure?

/-- Whatever the sink does, the notification has been processed. -/
theorem take_receiver (h : run.failure = none) (n : Notification) :
    (run.take n).receiver = (run.receiver.process n).2 := by
  rw [take, h]
  rcases run.receiver.process n with ⟨result, receiver⟩
  cases result with
  | error e => rfl
  | ok o =>
    rcases hsink : Sink.takeAll run.sink o.telegrams with ⟨sink, taken⟩
    cases taken <;> simp [hsink]

theorem follows_take (c : Config) :
    Follows c (c.effect ·.payload) (take : Run σ → Notification → Run σ) where
  ended n h := take_of_failure h
  config run n := by
    cases h : run.failure with
    | some e => rw [take_of_failure h]
    | none =>
      rw [take_receiver h]
      exact process_config _ _
  stats n h hc := by
    rw [take_receiver h, process_tally, hc]
  reliable {run} n h hc hsink := by
    cases houtcome : c.outcome n.payload with
    | ok o =>
      have hprocess : (run.receiver.process n).1 = .ok o := by rw [process_fst, hc, houtcome]
      rw [take_of_ok h hprocess (hsink.takeAll_eq _), Config.effect_of_ok houtcome]
      exact ⟨rfl, rfl⟩
    | error e =>
      have hprocess : (run.receiver.process n).1 = .error e := by rw [process_fst, hc, houtcome]
      rw [take_of_error h hprocess, Config.effect_of_error houtcome]
      exact ⟨rfl, rfl⟩

/-- A run that has ended reads no line. -/
theorem takeLine_of_failure {e : Error} (h : run.failure = some e) (line : Option String) :
    run.takeLine source line = run := by
  unfold takeLine
  rw [h]
  rfl

/-- What a run that has not ended does with a line. -/
inductive ReadsLine (source : String) (run : Run σ) : Option String → Run σ → Prop where
  /-- A line that cannot be read ends the run. -/
  | unreadable : ReadsLine source run none { run with failure := some .unreadableLine }
  /-- A payload is a notification. -/
  | payload {line : String} {payload : Bytes} : Line.payload? line = some payload →
      ReadsLine source run (some line) (run.take (.arriving payload source))
  /-- A line without a payload is counted, and at most reported. -/
  | skipped {line : String} {receiver : Receiver} : Line.payload? line = none →
      (run.receiver.count .ofSkippedLine).Agrees receiver →
        ReadsLine source run (some line) { run with receiver }

theorem readsLine_takeLine (source : String) (h : run.failure = none) (line : Option String) :
    ReadsLine source run line (run.takeLine source line) := by
  cases line with
  | none =>
    rw [takeLine, h]
    exact .unreadable
  | some line =>
    cases hread : Line.read line with
    | payload payload =>
      have hline : Line.payload? line = some payload := by rw [Line.payload?, hread]; rfl
      rw [takeLine_of_payload h hread]
      exact .payload hline
    | nothing =>
      have hline : Line.payload? line = none := by rw [Line.payload?, hread]; rfl
      have htake : run.takeLine source (some line) =
          { run with receiver := run.receiver.count .ofSkippedLine } := by
        rw [takeLine, h, hread]
        rfl
      rw [htake]
      exact .skipped hline (.refl _)
    | undecodable cause =>
      have hline : Line.payload? line = none := by rw [Line.payload?, hread]; rfl
      have htake : run.takeLine source (some line) = { run with
          receiver := (run.receiver.report (.undecodable cause)).count .ofSkippedLine } := by
        rw [takeLine, h, hread]
        rfl
      rw [htake]
      exact .skipped hline ⟨rfl, rfl⟩

theorem follows_takeLine (c : Config) (source : String) :
    Follows c c.lineEffect (takeLine source : Run σ → Option String → Run σ) where
  ended line h := takeLine_of_failure h line
  config run line := by
    cases h : run.failure with
    | some e => rw [takeLine_of_failure h]
    | none =>
      have hread := readsLine_takeLine source h line
      generalize run.takeLine source line = next at hread ⊢
      cases hread with
      | unreadable => rfl
      | payload hline => exact (follows_take c).config _ _
      | skipped hline hreceiver => exact hreceiver.config
  stats {run} line h hc := by
    have hread := readsLine_takeLine source h line
    generalize run.takeLine source line = next at hread ⊢
    cases hread with
    | unreadable => exact (add_zero run.receiver.stats).symm
    | payload hline =>
      rw [Config.lineEffect_of_payload hline]
      exact (follows_take c).stats _ h hc
    | skipped hline hreceiver =>
      rw [Config.lineEffect_of_skipped hline]
      exact hreceiver.stats
  reliable {run} line h hc hsink := by
    have hread := readsLine_takeLine source h line
    generalize run.takeLine source line = next at hread ⊢
    cases hread with
    | unreadable => exact ⟨rfl, rfl⟩
    | payload hline =>
      rw [Config.lineEffect_of_payload hline]
      exact (follows_take c).reliable _ h hc hsink
    | skipped hline hreceiver =>
      rw [Config.lineEffect_of_skipped hline]
      exact ⟨rfl, h⟩

/-! ### Whole runs -/

/-- The run has come from the start over the items. -/
structure Course (effect : α → Effect) (start : Run σ) (items : List α) (run : Run σ) : Prop where
  /-- It has ended before its time if an item ends it. -/
  failure : run.failure = Effect.firstFailure? effect items
  /-- The configuration is kept. -/
  config : run.receiver.config = start.receiver.config
  /-- The items before that one are counted. -/
  stats : run.receiver.stats = start.receiver.stats + Effect.tallies effect (Effect.before effect items)
  /-- The sink has their telegrams. -/
  sink : run.sink = Sink.given start.sink (Effect.allTelegrams effect (Effect.before effect items))

theorem Follows.foldl_of_failure (hstep : Follows c effect step) {e : Error}
    (h : run.failure = some e) (items : List α) : items.foldl step run = run := by
  induction items with
  | nil => rfl
  | cons a items ih => rw [List.foldl_cons, hstep.ended a h, ih]

/-- With a reliable sink a run over items is decided by their effects. -/
theorem Follows.course (hstep : Follows c effect step) (h : start.failure = none)
    (hc : start.receiver.config = c) (hsink : Sink.IsReliable start.sink) (items : List α) :
    Course effect start items (items.foldl step start) := by
  induction items generalizing start with
  | nil => exact ⟨h, rfl, (add_zero _).symm, rfl⟩
  | cons a items ih =>
    obtain ⟨hgiven, hfailure⟩ := hstep.reliable a h hc hsink
    have hstats := hstep.stats a h hc
    cases ha : (effect a).failure? with
    | some e =>
      -- The rest of the items finds a run that has ended.
      rw [ha] at hfailure
      rw [Effect.telegrams_eq_nil ha] at hgiven
      rw [Effect.tally_eq_zero ha] at hstats
      rw [List.foldl_cons, hstep.foldl_of_failure hfailure]
      refine ⟨?_, hstep.config _ _, ?_, ?_⟩
      · rw [hfailure, Effect.firstFailure?, List.findSome?_cons_of_isSome (by rw [ha]; rfl), ha]
      · rw [hstats, Effect.before_cons_of_some ha]
        rfl
      · rw [hgiven, Effect.before_cons_of_some ha]
        rfl
    | none =>
      -- The run goes on over the rest as if it had started behind the item.
      rw [ha] at hfailure
      have hcourse := ih hfailure ((hstep.config _ _).trans hc)
        (hgiven ▸ hsink.given (effect a).telegrams)
      refine ⟨?_, hcourse.config.trans (hstep.config _ _), ?_, ?_⟩
      · rw [List.foldl_cons, hcourse.failure, Effect.firstFailure?_cons ha]
      · rw [List.foldl_cons, hcourse.stats, hstats, Effect.before_cons ha, add_assoc]
        rfl
      · rw [List.foldl_cons, hcourse.sink, hgiven, Effect.before_cons ha, ← Sink.given_append]
        rfl

/-- The run has handed these telegrams to the sink. If it has come to its end, the sink is flushed. -/
def HasGiven (sink : σ) (ts : List Telegram) (run : Run σ) : Prop :=
  run.sink = match run.failure with
    | none => (Sink.flush (Sink.given sink ts)).1
    | some _ => Sink.given sink ts

/-- The run over the items from a receiver and a sink is over. -/
structure IsOver (effect : α → Effect) (r : Receiver) (sink : σ) (items : List α) (run : Run σ) :
    Prop where
  /-- It has ended before its time if an item ends it. -/
  failure : run.failure = Effect.firstFailure? effect items
  /-- The configuration is kept. -/
  config : run.receiver.config = r.config
  /-- The items before that one are counted. -/
  stats : run.receiver.stats = r.stats + Effect.tallies effect (Effect.before effect items)
  /-- The sink has their telegrams. -/
  gave : run.HasGiven sink (Effect.allTelegrams effect (Effect.before effect items))

/-- Reports apart, a run that has ended before its time is left as it is, and else its sink is
flushed. -/
theorem Course.finish {r : Receiver} {sink : σ} {items : List α} (hsink : Sink.IsReliable sink)
    (h : Course effect { receiver := r, sink, failure := none } items run) :
    IsOver effect r sink items run.finish := by
  have hgiven := hsink.given (Effect.allTelegrams effect (Effect.before effect items))
  cases hfailure : run.failure with
  | some e =>
    have hfinish : run.finish = run := by
      rw [Run.finish, hfailure]
      rfl
    rw [hfinish]
    refine ⟨h.failure, h.config, h.stats, ?_⟩
    rw [HasGiven, hfailure]
    exact h.sink
  | none =>
    have hfinish : run.finish =
        { receiver := run.receiver.report (.ended run.receiver.stats)
          sink := (Sink.flush run.sink).1
          failure := none } := by
      rw [Run.finish, hfailure]
      simp only [Option.isSome_none, Bool.false_eq_true, if_false]
      rw [h.sink, hgiven.flush_eq]
    rw [hfinish]
    refine ⟨hfailure.symm.trans h.failure, h.config, h.stats, ?_⟩
    exact congrArg (fun s => (Sink.flush s).1) h.sink

section Over

variable {r : Receiver} {sink : σ} {items : List α} (h : IsOver effect r sink items run)

include h

/-- If no item ends the run, the result is the statistics with the tallies of all items. -/
theorem IsOver.result_eq_ok (hnone : Effect.firstFailure? effect items = none) :
    run.result = .ok (r.stats + Effect.tallies effect items) := by
  rw [result, h.failure, hnone, h.stats, Effect.before_eq_self hnone]

theorem IsOver.result_eq_error_iff {e : Error} :
    run.result = .error e ↔ Effect.firstFailure? effect items = some e := by
  rw [result, h.failure]
  cases Effect.firstFailure? effect items with
  | none => simp
  | some e' => simp

/-- A run that succeeds has met no item that ends it. -/
theorem IsOver.firstFailure?_eq_none {s : Stats} (hs : run.result = .ok s) :
    Effect.firstFailure? effect items = none := by
  cases hfirst : Effect.firstFailure? effect items with
  | none => rfl
  | some e =>
    rw [h.result_eq_error_iff.2 hfirst] at hs
    cases hs

end Over

end Run

section Over

variable {σ : Type} [Sink σ] {sink : σ} (r : Receiver) (hsink : Sink.IsReliable sink)

include hsink

/-- **Runs over notifications**, with a reliable sink. -/
theorem isOver_run (ns : List Notification) :
    Run.IsOver (r.config.effect ·.payload) r sink ns (r.run sink ns) :=
  ((Run.follows_take r.config).course rfl rfl hsink ns).finish hsink

/-- **Runs over texts**, with a reliable sink. -/
theorem isOver_runText (source : String) (text : Bytes) :
    Run.IsOver r.config.lineEffect r sink (Text.utf8Lines text) (r.runText sink source text) :=
  ((Run.follows_takeLine r.config source).course rfl rfl hsink (Text.utf8Lines text)).finish hsink

end Over

end Receiver

end MeterBridge
