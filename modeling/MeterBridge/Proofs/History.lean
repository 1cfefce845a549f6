import MeterBridge.Proofs.Effect
import MeterBridge.Proofs.Line
import MeterBridge.Proofs.Lines

/-!
# Histories

A receiver processes single notifications and is run over notifications and texts, again and again and
with any sinks. A history is a list of such calls. What the calls give is noted as they are made: the
results of processing, and the lines that have been read, each with the receiver in front of it and
behind it. A run that ends before its time, by an item or by its sink, gives what it has come to
(`Run.reached`).

`stats_account` says that at any time the statistics are those of the outcomes so far and of the lines
that were skipped. The counts are numbers without a bound.
-/

namespace MeterBridge

namespace Receiver

/-! ### What a run comes to -/

namespace Run

variable {σ α : Type} {c : Config} {effect : α → Effect} {step : Run σ → α → Run σ} {run : Run σ}

/-- The items that a run comes to before it has ended, each with the run as it comes to it. -/
def reached (step : Run σ → α → Run σ) (run : Run σ) : List α → List (Run σ × α)
  | [] => []
  | a :: rest => if run.failure.isSome then [] else (run, a) :: reached step (step run a) rest

theorem reached_of_failure {e : Error} (h : run.failure = some e) (items : List α) :
    reached step run items = [] := by
  cases items with
  | nil => rfl
  | cons a rest => rw [reached, h]; rfl

theorem reached_cons (h : run.failure = none) (a : α) (rest : List α) :
    reached step run (a :: rest) = (run, a) :: reached step (step run a) rest := by
  rw [reached, h]
  rfl

variable [Sink σ]

/-- What a run comes to has not ended, and has the configuration that it started with. -/
theorem Follows.of_mem_reached (hstep : Follows c effect step) (hc : run.receiver.config = c)
    {items : List α} {x : Run σ × α} (hx : x ∈ reached step run items) :
    x.1.failure = none ∧ x.1.receiver.config = c := by
  induction items generalizing run with
  | nil => cases hx
  | cons a rest ih =>
    cases hfailure : run.failure with
    | some e => rw [reached_of_failure hfailure] at hx; cases hx
    | none =>
      rw [reached_cons hfailure] at hx
      rcases List.mem_cons.1 hx with rfl | hx
      · exact ⟨hfailure, hc⟩
      · exact ih ((hstep.config _ _).trans hc) hx

/-- A run counts what it comes to, whatever its sink does. -/
theorem Follows.foldl_stats (hstep : Follows c effect step) (hc : run.receiver.config = c)
    (items : List α) : (items.foldl step run).receiver.stats =
      run.receiver.stats + ((reached step run items).map fun x => (effect x.2).tally).sum := by
  induction items generalizing run with
  | nil => exact (add_zero _).symm
  | cons a rest ih =>
    cases hfailure : run.failure with
    | some e =>
      rw [hstep.foldl_of_failure hfailure, reached_of_failure hfailure]
      exact (add_zero _).symm
    | none =>
      rw [List.foldl_cons, ih ((hstep.config _ _).trans hc), hstep.stats a hfailure hc,
        reached_cons hfailure, List.map_cons, List.sum_cons, add_assoc]

theorem Follows.foldl_config (hstep : Follows c effect step) (items : List α) :
    (items.foldl step run).receiver.config = run.receiver.config := by
  induction items generalizing run with
  | nil => rfl
  | cons a rest ih => exact ih.trans (hstep.config _ _)

/-- The end of a run is reported at most. -/
theorem agrees_finish (run : Run σ) : run.receiver.Agrees run.finish.receiver := by
  rw [finish]
  split
  · exact .refl _
  · split
    · exact agrees_report _ _
    · exact .refl _

/-- What a run adds accounts for all that it comes to, if each item's tally accounts for that item. -/
theorem Follows.exists_account (hstep : Follows c effect step) (hc : run.receiver.config = c)
    {os : Run σ × α → List Outcome} {skips : Run σ × α → Bool}
    (h : ∀ x : Run σ × α, x.1.receiver.config = c →
      (effect x.2).tally.Accounts (os x) (if skips x then 1 else 0)) (items : List α) :
    ∃ s : Stats, (items.foldl step run).finish.receiver.stats = run.receiver.stats + s ∧
      s.Accounts ((reached step run items).flatMap os) ((reached step run items).countP skips) := by
  refine ⟨_, ?_, Stats.accounts_sum fun x hx => h x (hstep.of_mem_reached hc hx).2⟩
  rw [(agrees_finish _).stats]
  exact hstep.foldl_stats hc items

end Run

/-! ### Calls -/

/-- What is done with a receiver. -/
inductive Call : Type 1 where
  /-- It processes a notification. -/
  | process (n : Notification)
  /-- It processes a bare payload. -/
  | processBare (payload : Bytes)
  /-- It is run over notifications. -/
  | run {σ : Type} [Sink σ] (sink : σ) (ns : List Notification)
  /-- It is run over the lines of a text. -/
  | runText {σ : Type} [Sink σ] (sink : σ) (source : String) (text : Bytes)
  /-- Nothing is done until the clock has another reading. -/
  | wait (clock : Nat)

/-- The receiver after a call. -/
def after (r : Receiver) : Call → Receiver
  | .process n => (r.process n).2
  | .processBare payload => (r.processBare payload).2
  | @Call.run _ _ sink ns => (r.run sink ns).receiver
  | @Call.runText _ _ sink source text => (r.runText sink source text).receiver
  | .wait clock => r.atTime clock

/-- A line that has been read. -/
structure LineRead where
  /-- The receiver in front of the line. -/
  before : Receiver
  /-- Where the line comes from. -/
  source : String
  /-- The line. -/
  line : String
  /-- The receiver behind the line. -/
  after : Receiver

namespace LineRead

/-- The line has no payload. -/
def isSkipped (l : LineRead) : Bool := (Line.payload? l.line).isNone

/-- The result of processing the payload of the line. -/
def result? (l : LineRead) : Option (Except Error Outcome) :=
  (Line.payload? l.line).map fun payload => (l.before.process (.arriving payload l.source)).1

end LineRead

/-- The line is counted once, unless there is no rule for its payload. -/
inductive LineRead.IsCounted (l : LineRead) : Prop where
  /-- It is counted as a notification. -/
  | notification {o : Outcome} : l.result? = some (.ok o) →
      l.after.stats.notifications = l.before.stats.notifications + 1 →
      l.after.stats.skippedLines = l.before.stats.skippedLines → l.IsCounted
  /-- It is counted as a skipped line. -/
  | skipped : l.result? = none →
      l.after.stats.notifications = l.before.stats.notifications →
      l.after.stats.skippedLines = l.before.stats.skippedLines + 1 → l.IsCounted
  /-- It is not counted. -/
  | ruleless {length : Nat} : l.result? = some (.error (.noRule length)) →
      l.after.stats = l.before.stats → l.IsCounted

/-- What a run reads when it comes to a line, if the line can be read. -/
def lineRead? {σ : Type} [Sink σ] (source : String) (x : Run σ × Option String) : Option LineRead :=
  x.2.map fun line =>
    { before := x.1.receiver, source, line, after := (x.1.takeLine source line).receiver }

/-- The lines that a call has read. -/
def linesRead (r : Receiver) : Call → List LineRead
  | @Call.runText _ _ sink source text =>
    (Run.reached (Run.takeLine source) { receiver := r, sink, failure := none }
      (Text.utf8Lines text)).filterMap (lineRead? source)
  | _ => []

/-- The results of processing the notifications of a call. -/
def results (r : Receiver) : Call → List (Except Error Outcome)
  | .process n => [(r.process n).1]
  | .processBare payload => [(r.processBare payload).1]
  | @Call.run _ _ sink ns =>
    (Run.reached Run.take { receiver := r, sink, failure := none } ns).map
      fun x => (x.1.receiver.process x.2).1
  | @Call.runText _ _ sink source text =>
    (r.linesRead (.runText sink source text)).filterMap LineRead.result?
  | .wait _ => []

/-! ### Histories -/

/-- The receiver after all calls. -/
def afterAll (r : Receiver) (calls : List Call) : Receiver := calls.foldl after r

/-- What all calls give, one after the other. -/
def gather {β : Type} (give : Receiver → Call → List β) (r : Receiver) : List Call → List β
  | [] => []
  | call :: rest => give r call ++ gather give (r.after call) rest

/-- The outcomes of all notifications that have been processed in a history. -/
def outcomes (r : Receiver) (calls : List Call) : List Outcome :=
  (r.gather results calls).filterMap (·.toOption)

/-! ### Accounts of calls -/

/-- The account of processing one notification. -/
theorem account_process (r : Receiver) (n : Notification) :
    (r.process n).2.stats = r.stats + (r.config.effect n.payload).tally ∧
      (r.config.effect n.payload).tally.Accounts (r.process n).1.toOption.toList 0 := by
  refine ⟨r.process_tally n, ?_⟩
  rw [process_fst]
  exact r.config.accounts_effect n.payload

/-- The account of coming to a line. -/
theorem accounts_lineRead? {σ : Type} [Sink σ] {c : Config} {source : String}
    {x : Run σ × Option String} (hc : x.1.receiver.config = c) :
    (c.lineEffect x.2).tally.Accounts
      ((lineRead? source x).bind fun l => l.result?.bind (·.toOption)).toList
      (if ((lineRead? source x).map LineRead.isSkipped).getD false then 1 else 0) := by
  obtain ⟨run, line?⟩ := x
  cases line? with
  | none => exact Stats.accounts_zero
  | some line =>
    cases hline : Line.payload? line with
    | none =>
      rw [Config.lineEffect_of_skipped hline]
      simp only [lineRead?, Option.map_some, Option.bind_some, LineRead.result?, LineRead.isSkipped,
        hline, Option.map_none, Option.bind_none, Option.isNone_none, Option.getD_some, if_true]
      exact Stats.accounts_ofSkippedLine
    | some payload =>
      rw [Config.lineEffect_of_payload hline, ← hc]
      simp only [lineRead?, Option.map_some, Option.bind_some, LineRead.result?, LineRead.isSkipped,
        hline, Option.isNone_some, Option.getD_some, Bool.false_eq_true, if_false]
      exact (account_process run.receiver (.arriving payload source)).2

/-- What a call adds accounts for its outcomes and its skipped lines. -/
theorem exists_account (r : Receiver) (call : Call) :
    ∃ s : Stats, (r.after call).stats = r.stats + s ∧
      s.Accounts ((r.results call).filterMap (·.toOption))
        ((r.linesRead call).countP (·.isSkipped)) := by
  cases call with
  | process n =>
    obtain ⟨hstats, haccount⟩ := r.account_process n
    refine ⟨_, hstats, ?_⟩
    rwa [results, List.filterMap_eq_flatMap_toList, List.flatMap_singleton]
  | processBare payload =>
    obtain ⟨hstats, haccount⟩ := r.account_process (.arriving payload "-")
    refine ⟨_, hstats, ?_⟩
    rwa [results, List.filterMap_eq_flatMap_toList, List.flatMap_singleton]
  | @run σ _ sink ns =>
    let start : Run σ := { receiver := r, sink, failure := none }
    have hitem : ∀ x : Run σ × Notification, x.1.receiver.config = r.config →
        (r.config.effect x.2.payload).tally.Accounts (x.1.receiver.process x.2).1.toOption.toList
          (if false then 1 else 0) :=
      fun x hx => hx ▸ (account_process x.1.receiver x.2).2
    obtain ⟨s, hstats, haccount⟩ :=
      (Run.follows_take r.config).exists_account (show start.receiver.config = _ from rfl) hitem ns
    refine ⟨s, hstats, ?_⟩
    rw [List.countP_false] at haccount
    rwa [results, List.filterMap_map, List.filterMap_eq_flatMap_toList]
  | @runText σ _ sink source text =>
    let start : Run σ := { receiver := r, sink, failure := none }
    obtain ⟨s, hstats, haccount⟩ :=
      (Run.follows_takeLine r.config source).exists_account
        (show start.receiver.config = _ from rfl) (fun x hx => accounts_lineRead? hx)
        (Text.utf8Lines text)
    refine ⟨s, hstats, ?_⟩
    rwa [results, linesRead, List.filterMap_filterMap, List.filterMap_filterMap,
      List.filterMap_eq_flatMap_toList, List.countP_filterMap]
  | wait clock => exact ⟨0, (add_zero _).symm, Stats.accounts_zero⟩

/-- A run counts each line that it reads, whatever its sink does. -/
theorem isCounted_takeLine {σ : Type} [Sink σ] {run : Run σ} (h : run.failure = none)
    (source line : String) : LineRead.IsCounted
      { before := run.receiver, source, line, after := (run.takeLine source line).receiver } := by
  have hread := Run.readsLine_takeLine source h (some line)
  generalize run.takeLine source line = next at hread ⊢
  cases hread with
  | skipped hline hreceiver =>
    refine .skipped ?_ ?_ ?_
    · rw [LineRead.result?, hline]
      rfl
    · exact (congrArg Stats.notifications hreceiver.stats).trans rfl
    · exact (congrArg Stats.skippedLines hreceiver.stats).trans rfl
  | @payload _ payload hline =>
    have hresult : ∀ after, LineRead.result? { before := run.receiver, source, line, after } =
        some (run.receiver.process (.arriving payload source)).1 := by
      intro after
      rw [LineRead.result?, hline]
      rfl
    rw [Run.take_receiver h]
    cases hprocess : (run.receiver.process (.arriving payload source)).1 with
    | ok o =>
      have hstats := process_stats hprocess
      rw [Stats.ofOutcome_eq, Stats.ofReasons_eq] at hstats
      exact .notification ((hresult _).trans (congrArg some hprocess))
        ((congrArg Stats.notifications hstats).trans rfl)
        ((congrArg Stats.skippedLines hstats).trans rfl)
    | error e =>
      have herror : e = .noRule payload.length :=
        (Config.outcome_eq_error_iff.1 ((process_fst _ _).symm.trans hprocess)).2
      rw [herror] at hprocess
      exact .ruleless ((hresult _).trans (congrArg some hprocess)) (process_stats_of_error hprocess)

theorem isCounted_of_mem_linesRead {r : Receiver} {call : Call} {l : LineRead}
    (hl : l ∈ r.linesRead call) : l.IsCounted := by
  cases call with
  | @runText σ _ sink source text =>
    obtain ⟨⟨run, line?⟩, hx, hl⟩ := List.mem_filterMap.1 hl
    have hreached := (Run.follows_takeLine r.config source).of_mem_reached rfl hx
    cases line? with
    | none => cases hl
    | some line =>
      cases hl
      exact isCounted_takeLine hreached.1 source line
  | process n => cases hl
  | processBare payload => cases hl
  | run sink ns => cases hl
  | wait clock => cases hl

/-! ### Accounts of histories -/

/-- What a history adds accounts for its outcomes and its skipped lines. -/
theorem exists_account_afterAll (r : Receiver) (calls : List Call) :
    ∃ s : Stats, (r.afterAll calls).stats = r.stats + s ∧
      s.Accounts (r.outcomes calls) ((r.gather linesRead calls).countP (·.isSkipped)) := by
  induction calls generalizing r with
  | nil => exact ⟨0, (add_zero _).symm, Stats.accounts_zero⟩
  | cons call rest ih =>
    obtain ⟨s, hstats, haccount⟩ := r.exists_account call
    obtain ⟨s', hstats', haccount'⟩ := ih (r.after call)
    refine ⟨s + s', ?_, ?_⟩
    · rw [afterAll, List.foldl_cons, ← add_assoc, ← hstats]
      exact hstats'
    · rw [outcomes, gather, gather, List.filterMap_append, List.countP_append]
      exact haccount.add haccount'

theorem isCounted_of_mem_gather {r : Receiver} {calls : List Call} {l : LineRead}
    (hl : l ∈ r.gather linesRead calls) : l.IsCounted := by
  induction calls generalizing r with
  | nil => cases hl
  | cons call rest ih =>
    rcases List.mem_append.1 hl with hl | hl
    · exact isCounted_of_mem_linesRead hl
    · exact ih hl

/-- A new receiver has a valid configuration and has processed nothing. -/
theorem eq_ofValid_of_new {c : Config} {r : Receiver} (h : new c = .ok r) :
    ∃ hc : c.IsValid, r = ofValid c hc := by
  rw [new] at h
  split at h
  · cases h
  · next hc =>
    cases h
    exact ⟨hc, rfl⟩

/-- **Statistics account for every history**: when a new receiver has been used in whatever way, its
statistics are those of the outcomes of all notifications that have been processed and of the lines that
were skipped; and each line that has been read is counted once, as a notification or as a skipped line,
unless there is no rule for its payload. -/
theorem stats_account {c : Config} {r : Receiver} (hnew : new c = .ok r) (calls : List Call) :
    (r.afterAll calls).stats.Accounts (r.outcomes calls)
        ((r.gather linesRead calls).countP (·.isSkipped)) ∧
      ∀ l ∈ r.gather linesRead calls, l.IsCounted := by
  obtain ⟨s, hstats, haccount⟩ := r.exists_account_afterAll calls
  obtain ⟨hc, rfl⟩ := eq_ofValid_of_new hnew
  have hzero : (ofValid c hc).stats = 0 := rfl
  rw [hzero, zero_add] at hstats
  rw [hstats]
  exact ⟨haccount, fun l hl => isCounted_of_mem_gather hl⟩

/-- A line with a telegram and more, an echo, and a line with a payload of one byte. -/
def mixedLines : Bytes :=
  Text.utf8 (LineFormat.pipe.body (Hex.digits mixedPayload) ++ "\nINFO\n00\n".toList)

/-- Calls of all kinds, with payloads that have no rule and a writer that is soon full. -/
def mixedHistory : List Call :=
  [.process (.arriving mixedPayload "-"), .processBare [0x00], .wait 2000,
    .runText (LineWriter.new .pipe (some 20)) "-" mixedLines,
    .run Collector.empty [.arriving mixedPayload "-", .arriving [] "-"],
    .runText Collector.empty "-" mixedLines]

theorem stats_account_mixed :
    ∃ r, new .oneRow = .ok r ∧
      (r.afterAll mixedHistory).stats.Accounts (r.outcomes mixedHistory)
          ((r.gather linesRead mixedHistory).countP (·.isSkipped)) ∧
        ∀ l ∈ r.gather linesRead mixedHistory, l.IsCounted := by
  have hnew := new_eq_ok (c := .oneRow) (by decide)
  exact ⟨_, hnew, stats_account hnew mixedHistory⟩

end Receiver

end MeterBridge
