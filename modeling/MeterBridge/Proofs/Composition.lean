import MeterBridge.Proofs.History
import MeterBridge.Proofs.Lines

/-!
# Composition of runs

What a receiver makes of a notification is decided by its configuration and the payload
(`IsIndependent`): neither what it has done before nor the source or the time of the notification bears
on it. So runs can be taken apart and put together. `Joins` says that two runs, one after the other, come
to the same as one run over both inputs; `Composes` adds that the statistics of a run are the sum of what
its notifications add on their own, and that their order matters only for the order of the telegrams.
-/

namespace MeterBridge

/-- Each of the notifications has a rule for its length. -/
def Config.HasRules (c : Config) (ns : List Notification) : Prop :=
  ∀ n ∈ ns, ¬ c.rules.LacksRule n.payload.length

/-- What a run over a text hands to its sink: the telegrams of the lines in front of the first one that
ends the run. -/
def Config.textTelegrams (c : Config) (text : Bytes) : List Telegram :=
  Effect.allTelegrams c.lineEffect (Effect.before c.lineEffect (Text.utf8Lines text))

/-- With rules for all of them, notifications do not end a run. -/
theorem Config.HasRules.firstFailure?_eq_none {c : Config} {ns : List Notification}
    (h : c.HasRules ns) : Effect.firstFailure? (c.effect ·.payload) ns = none := by
  refine Effect.firstFailure?_eq_none_iff.2 fun n hn => ?_
  rw [Option.eq_none_iff_forall_ne_some]
  intro e he
  exact h n hn (failure?_effect.1 he).1

namespace Receiver

/-! ### Independence -/

/-- The telegrams that the receiver makes of a notification. -/
def telegramsOf (r : Receiver) (n : Notification) : List Telegram :=
  match (r.process n).1 with
  | .ok o => o.telegrams
  | .error _ => []

theorem telegramsOf_eq (r : Receiver) (n : Notification) :
    r.telegramsOf n = (r.config.effect n.payload).telegrams := by
  rw [telegramsOf, process_fst]
  cases h : r.config.outcome n.payload with
  | ok o =>
    rw [Config.effect_of_ok h]
    rfl
  | error e =>
    rw [Config.effect_of_error h]
    rfl

/-- What the receiver has done before does not bear on what it does with a notification. -/
structure IsIndependent (fresh r : Receiver) : Prop where
  /-- The result depends on the payload alone, and is that of a new receiver. -/
  result_eq : ∀ n n' : Notification, n'.payload = n.payload → (r.process n').1 = (fresh.process n).1
  /-- The statistics grow by those of a new receiver. -/
  stats_eq : ∀ n, (r.process n).2.stats = r.stats + (fresh.process n).2.stats

theorem run_config {σ : Type} [Sink σ] (r : Receiver) (sink : σ) (ns : List Notification) :
    (r.run sink ns).receiver.config = r.config := by
  rw [run, (Run.agrees_finish _).config]
  exact (Run.follows_take r.config).foldl_config ns

theorem runText_config {σ : Type} [Sink σ] (r : Receiver) (sink : σ) (source : String)
    (text : Bytes) : (r.runText sink source text).receiver.config = r.config := by
  rw [runText, (Run.agrees_finish _).config]
  exact (Run.follows_takeLine r.config source).foldl_config (Text.utf8Lines text)

/-- A call keeps the configuration. -/
theorem after_config (r : Receiver) (call : Call) : (r.after call).config = r.config := by
  cases call with
  | process n => exact r.process_config n
  | processBare payload => exact r.process_config (.arriving payload "-")
  | run sink ns => exact r.run_config sink ns
  | runText sink source text => exact r.runText_config sink source text
  | wait clock => rfl

theorem afterAll_config (r : Receiver) (calls : List Call) :
    (r.afterAll calls).config = r.config := by
  induction calls generalizing r with
  | nil => rfl
  | cons call rest ih => exact (ih (r.after call)).trans (r.after_config call)

variable {fresh r : Receiver}

theorem isIndependent_of_config (hconfig : r.config = fresh.config) (hfresh : fresh.stats = 0) :
    fresh.IsIndependent r where
  result_eq n n' h := by rw [process_fst, process_fst, hconfig, h]
  stats_eq n := by rw [process_tally, process_tally, hconfig, hfresh, zero_add]

/-! ### Runs one after the other -/

section Runs

variable {σ α : Type} [Sink σ] {effect : α → Effect} {sink : σ} {xs ys : List α}
  {first second whole : Run σ}

/-- Two runs, one after the other, come to the same as one run over both inputs. -/
structure Joins (sink : σ) (ts us : List Telegram) (first second whole : Run σ) : Prop where
  /-- The result is that of the second run. -/
  result_eq : whole.result = second.result
  /-- The statistics are those after the second run. -/
  stats_eq : whole.receiver.stats = second.receiver.stats
  /-- The first run hands on its telegrams. -/
  first_gave : first.HasGiven sink ts
  /-- So does the second one. -/
  second_gave : second.HasGiven first.sink us
  /-- The one run hands on the telegrams of both. -/
  whole_gave : whole.HasGiven sink (ts ++ us)
  /-- The sinks are the same, unless it makes a difference that a sink is flushed in between. -/
  sink_eq : (∀ s : σ, Sink.flush s = (s, true)) → whole.sink = second.sink

/-- A run leaves a reliable sink reliable. -/
theorem Run.IsOver.isReliable (h : Run.IsOver effect r sink xs first) (hsink : Sink.IsReliable sink) :
    Sink.IsReliable first.sink := by
  have hgiven := hsink.given (Effect.allTelegrams effect (Effect.before effect xs))
  have hgave := h.gave
  rw [Run.HasGiven] at hgave
  rw [hgave]
  cases first.failure with
  | some e => exact hgiven
  | none => exact hgiven.of_reaches (.flush .refl)

theorem joins_of_isOver (hfirst : Run.IsOver effect r sink xs first)
    (hxs : Effect.firstFailure? effect xs = none)
    (hsecond : Run.IsOver effect first.receiver first.sink ys second)
    (hwhole : Run.IsOver effect r sink (xs ++ ys) whole) :
    Joins sink (Effect.allTelegrams effect xs)
      (Effect.allTelegrams effect (Effect.before effect ys)) first second whole := by
  have hfailure : whole.failure = second.failure := by
    rw [hwhole.failure, hsecond.failure, Effect.firstFailure?_append, hxs, Option.none_or]
  have hstats : whole.receiver.stats = second.receiver.stats := by
    rw [hwhole.stats, hsecond.stats, hfirst.stats, Effect.before_append hxs, Effect.tallies_append,
      Effect.before_eq_self hxs, add_assoc]
  have hgave₁ := hfirst.gave
  rw [Effect.before_eq_self hxs] at hgave₁
  have hgave := hwhole.gave
  rw [Effect.before_append hxs, Effect.allTelegrams_append] at hgave
  refine ⟨?_, hstats, hgave₁, hsecond.gave, hgave, fun hflush => ?_⟩
  · rw [Run.result, Run.result, hfailure, hstats]
  · -- The second run starts from a sink that the first one has flushed.
    have hgave₂ := hsecond.gave
    rw [Run.HasGiven, hfirst.failure, hxs] at hgave₁
    rw [Run.HasGiven] at hgave hgave₂
    simp only [hflush] at hgave hgave₁ hgave₂
    rw [hgave, hgave₂, hfailure, hgave₁, Sink.given_append]

/-- What ends the first run ends the one run over both inputs as well, and nothing comes after it. -/
structure Stops (first whole : Run σ) : Prop where
  /-- The result is that of the first run. -/
  result_eq : whole.result = first.result
  /-- The statistics are those after the first run. -/
  stats_eq : whole.receiver.stats = first.receiver.stats
  /-- The sink is that of the first run. -/
  sink_eq : whole.sink = first.sink

theorem stops_of_isOver {e : Error} (hfirst : Run.IsOver effect r sink xs first)
    (hxs : Effect.firstFailure? effect xs = some e)
    (hwhole : Run.IsOver effect r sink (xs ++ ys) whole) : Stops first whole := by
  have hfailure : whole.failure = first.failure := by
    rw [hwhole.failure, hfirst.failure, Effect.firstFailure?_append, hxs, Option.some_or]
  have hstats : whole.receiver.stats = first.receiver.stats := by
    rw [hwhole.stats, hfirst.stats, Effect.before_append_of_some hxs]
  refine ⟨?_, hstats, ?_⟩
  · rw [Run.result, Run.result, hfailure, hstats]
  · have hgave₁ := hfirst.gave
    have hgave := hwhole.gave
    rw [Effect.before_append_of_some hxs] at hgave
    rw [Run.HasGiven] at hgave hgave₁
    rw [hgave, hgave₁, hfailure]

/-- Runs of the receiver into the sink can be taken apart and put together. -/
structure Composes (fresh r : Receiver) (sink : σ) : Prop where
  /-- A run adds what its notifications add on their own. -/
  run_stats : ∀ xs, r.config.HasRules xs →
    (r.run sink xs).result = .ok (r.run sink xs).receiver.stats ∧
      (r.run sink xs).receiver.stats = r.stats + (xs.map fun n => (fresh.process n).2.stats).sum
  /-- Two lots of notifications can be taken together. -/
  run_append : ∀ xs ys, r.config.HasRules xs → r.config.HasRules ys →
    Joins sink (xs.flatMap fresh.telegramsOf) (ys.flatMap fresh.telegramsOf) (r.run sink xs)
      ((r.run sink xs).receiver.run (r.run sink xs).sink ys) (r.run sink (xs ++ ys))
  /-- In another order the same telegrams are handed on, in blocks that belong together. -/
  run_perm : ∀ xs ys, xs.Perm ys → r.config.HasRules xs →
    (r.run sink ys).result = (r.run sink xs).result ∧
      (r.run sink ys).receiver.stats = (r.run sink xs).receiver.stats ∧
        (r.run sink xs).HasGiven sink (xs.map fresh.telegramsOf).flatten ∧
          (r.run sink ys).HasGiven sink (ys.map fresh.telegramsOf).flatten ∧
            (ys.map fresh.telegramsOf).Perm (xs.map fresh.telegramsOf)
  /-- A text that ends a line can be taken together with another one. -/
  runText_append : ∀ source a b, a.getLast? = some 10 → (r.runText sink source a).failure = none →
    Joins sink (r.config.textTelegrams a) (r.config.textTelegrams b) (r.runText sink source a)
      ((r.runText sink source a).receiver.runText (r.runText sink source a).sink source b)
      (r.runText sink source (a ++ b))
  /-- If it ends the run, then it does so with the other one behind it. -/
  runText_stops : ∀ source a b e, a.getLast? = some 10 → (r.runText sink source a).failure = some e →
    Stops (r.runText sink source a) (r.runText sink source (a ++ b))

section Composes

variable (hconfig : r.config = fresh.config) (hsink : Sink.IsReliable sink)

include hconfig

theorem allTelegrams_eq (ns : List Notification) :
    Effect.allTelegrams (r.config.effect ·.payload) ns = ns.flatMap fresh.telegramsOf := by
  have htelegrams : fresh.telegramsOf = fun n => (r.config.effect n.payload).telegrams := by
    funext n
    rw [telegramsOf_eq, hconfig]
  rw [htelegrams, Effect.allTelegrams]

theorem tallies_eq (hfresh : fresh.stats = 0) (ns : List Notification) :
    Effect.tallies (r.config.effect ·.payload) ns =
      (ns.map fun n => (fresh.process n).2.stats).sum := by
  simp only [Effect.tallies, process_tally, hfresh, zero_add, hconfig]

include hsink

theorem composes_of_config (hfresh : fresh.stats = 0) : Composes fresh r sink where
  run_stats xs hxs := by
    have hover := r.isOver_run hsink xs
    have hnone := hxs.firstFailure?_eq_none
    have hstats := hover.stats
    rw [Effect.before_eq_self hnone] at hstats
    refine ⟨?_, ?_⟩
    · rw [hover.result_eq_ok hnone, hstats]
    · rw [hstats, tallies_eq hconfig hfresh]
  run_append xs ys hxs hys := by
    have hfirst := r.isOver_run hsink xs
    have hsecond := (r.run sink xs).receiver.isOver_run (hfirst.isReliable hsink) ys
    rw [hfirst.config] at hsecond
    have hjoins := joins_of_isOver hfirst hxs.firstFailure?_eq_none hsecond
      (r.isOver_run hsink (xs ++ ys))
    rwa [Effect.before_eq_self hys.firstFailure?_eq_none, allTelegrams_eq hconfig,
      allTelegrams_eq hconfig] at hjoins
  run_perm xs ys hperm hxs := by
    have hys : r.config.HasRules ys := fun n hn => hxs n (hperm.mem_iff.2 hn)
    have htallies : Effect.tallies (r.config.effect ·.payload) ys =
        Effect.tallies (r.config.effect ·.payload) xs := (hperm.symm.map _).sum_eq
    have hover := r.isOver_run hsink xs
    have hover' := r.isOver_run hsink ys
    have hstats := hover.stats
    have hstats' := hover'.stats
    have hgave := hover.gave
    have hgave' := hover'.gave
    rw [Effect.before_eq_self hxs.firstFailure?_eq_none] at hstats hgave
    rw [Effect.before_eq_self hys.firstFailure?_eq_none] at hstats' hgave'
    rw [allTelegrams_eq hconfig, List.flatMap_def] at hgave hgave'
    refine ⟨?_, ?_, hgave, hgave', hperm.symm.map _⟩
    · rw [hover.result_eq_ok hxs.firstFailure?_eq_none,
        hover'.result_eq_ok hys.firstFailure?_eq_none, htallies]
    · rw [hstats, hstats', htallies]
  runText_append source a b ha hfailure := by
    have hfirst := r.isOver_runText hsink source a
    have hnone := hfirst.failure.symm.trans hfailure
    have hsecond :=
      (r.runText sink source a).receiver.isOver_runText (hfirst.isReliable hsink) source b
    have hwhole := r.isOver_runText hsink source (a ++ b)
    rw [hfirst.config] at hsecond
    rw [Text.utf8Lines_append ha] at hwhole
    have hjoins := joins_of_isOver hfirst hnone hsecond hwhole
    rwa [← Effect.before_eq_self hnone] at hjoins
  runText_stops source a b e ha hfailure := by
    have hfirst := r.isOver_runText hsink source a
    have hwhole := r.isOver_runText hsink source (a ++ b)
    rw [Text.utf8Lines_append ha] at hwhole
    exact stops_of_isOver hfirst (hfirst.failure.symm.trans hfailure) hwhole

end Composes

end Runs

/-- **Independence and composition**: whatever a receiver has been used for, it makes of each
notification what a new one makes of the payload; and its runs into a reliable sink can be taken apart
and put together. -/
theorem runs_compose {c : Config} {fresh : Receiver} (hnew : new c = .ok fresh) (calls : List Call) :
    fresh.IsIndependent (fresh.afterAll calls) ∧
      ∀ {σ : Type} [Sink σ] {sink : σ}, Sink.IsReliable sink →
        Composes fresh (fresh.afterAll calls) sink := by
  have hconfig := fresh.afterAll_config calls
  have hfresh : fresh.stats = 0 := by
    obtain ⟨hc, rfl⟩ := eq_ofValid_of_new hnew
    rfl
  exact ⟨isIndependent_of_config hconfig hfresh,
    fun hsink => composes_of_config hconfig hsink hfresh⟩

theorem runs_compose_mixed :
    ∃ fresh, new .oneRow = .ok fresh ∧ fresh.config.HasRules [.arriving mixedPayload "-"] ∧
      fresh.IsIndependent (fresh.afterAll mixedHistory) ∧
        Sink.IsReliable (LineWriter.new .pipe none) ∧
          Composes fresh (fresh.afterAll mixedHistory) (LineWriter.new .pipe none) := by
  have hnew := new_eq_ok (c := .oneRow) (by decide)
  have hrules : Config.oneRow.HasRules [.arriving mixedPayload "-"] := by
    intro n hn
    rw [List.mem_singleton.1 hn]
    decide
  have hsink := LineWriter.isReliable (show (LineWriter.new .pipe none).room = none from rfl)
  obtain ⟨hindependent, hcomposes⟩ := runs_compose hnew mixedHistory
  exact ⟨_, hnew, hrules, hindependent, hsink, hcomposes hsink⟩

end Receiver

end MeterBridge
