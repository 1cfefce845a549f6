import MeterBridge.Proofs.Effect

/-!
# Runs into any sink

A run hands the telegrams of each item to its sink, and the sink may refuse one. Items are counted before
their telegrams are handed on, so the run then ends behind the item that the refused telegram belongs to,
and that item is counted as a whole. `Feeds` says this of one step of a run, of notifications and of lines;
`Feeds.foldl` says of a whole run that it is decided by what the sink makes of all telegrams, one after the
other (`Fed`).
-/

namespace MeterBridge

/-! ### Counts of telegrams -/

namespace Effect

variable {α : Type} {effect : α → Effect}

/-- The tallies count the telegrams that are handed on. -/
def CountsTelegrams (effect : α → Effect) : Prop :=
  ∀ a, (effect a).tally.telegrams = (effect a).telegrams.length

theorem CountsTelegrams.telegrams_tallies (h : CountsTelegrams effect) (items : List α) :
    (tallies effect items).telegrams = (allTelegrams effect items).length := by
  induction items with
  | nil => rfl
  | cons a items ih =>
    rw [tallies_cons, allTelegrams_cons, List.length_append, ← h a, ← ih]
    rfl

end Effect

namespace Config

/-- A notification counts its telegrams. -/
theorem telegrams_tally_effect (c : Config) (payload : Bytes) :
    (c.effect payload).tally.telegrams = (c.effect payload).telegrams.length := by
  cases h : c.outcome payload with
  | ok o =>
    rw [effect_of_ok h, Effect.tally, Stats.ofOutcome_eq]
    rfl
  | error e =>
    rw [effect_of_error h]
    rfl

/-- So does a line. -/
theorem countsTelegrams_lineEffect (c : Config) : Effect.CountsTelegrams c.lineEffect := by
  intro line
  cases line with
  | none => rfl
  | some line =>
    cases h : Line.payload? line with
    | none =>
      rw [lineEffect_of_skipped h]
      rfl
    | some payload =>
      rw [lineEffect_of_payload h]
      exact c.telegrams_tally_effect payload

end Config

namespace Receiver.Run

/-! ### One step -/

variable {σ α : Type} [Sink σ] {c : Config} {effect : α → Effect} {step : Run σ → α → Run σ}
  {run start : Run σ} {source : String}

/-- A run that has not ended hands the telegrams of an item to its sink, and the sink may end it. -/
structure Feeds (c : Config) (effect : α → Effect) (step : Run σ → α → Run σ) : Prop extends
    Follows c effect step where
  /-- The sink is given the telegrams. -/
  sink : ∀ {run} a, run.failure = none → run.receiver.config = c → (effect a).failure? = none →
    (step run a).sink = (Sink.takeAll run.sink (effect a).telegrams).1
  /-- The run goes on if they are taken. -/
  failure : ∀ {run} a, run.failure = none → run.receiver.config = c → (effect a).failure? = none →
    (step run a).failure =
      if (Sink.takeAll run.sink (effect a).telegrams).2 then none else some .writerFull

theorem feeds_take (c : Config) :
    Feeds c (c.effect ·.payload) (take : Run σ → Notification → Run σ) := by
  have htake : ∀ {run : Run σ} (n : Notification), run.failure = none → run.receiver.config = c →
      (c.effect n.payload).failure? = none → run.take n =
        { receiver := (run.receiver.process n).2
          sink := (Sink.takeAll run.sink (c.effect n.payload).telegrams).1
          failure := if (Sink.takeAll run.sink (c.effect n.payload).telegrams).2 then none
            else some .writerFull } := by
    intro run n h hc heffect
    cases houtcome : c.outcome n.payload with
    | error e =>
      rw [Config.effect_of_error houtcome] at heffect
      cases heffect
    | ok o =>
      rw [Config.effect_of_ok houtcome]
      exact take_of_outcome h (by rw [process_fst, hc, houtcome])
  refine ⟨follows_take c, fun n h hc heffect => ?_, fun n h hc heffect => ?_⟩
  · rw [htake n h hc heffect]
  · rw [htake n h hc heffect]

theorem feeds_takeLine (c : Config) (source : String) :
    Feeds c c.lineEffect (takeLine source : Run σ → Option String → Run σ) where
  toFollows := follows_takeLine c source
  sink {run} line h hc heffect := by
    have hread := readsLine_takeLine source h line
    generalize run.takeLine source line = next at hread ⊢
    cases hread with
    | unreadable => cases heffect
    | payload hline =>
      rw [Config.lineEffect_of_payload hline] at heffect ⊢
      exact (feeds_take c).sink _ h hc heffect
    | skipped hline hreceiver =>
      rw [Config.lineEffect_of_skipped hline]
      rfl
  failure {run} line h hc heffect := by
    have hread := readsLine_takeLine source h line
    generalize run.takeLine source line = next at hread ⊢
    cases hread with
    | unreadable => cases heffect
    | payload hline =>
      rw [Config.lineEffect_of_payload hline] at heffect ⊢
      exact (feeds_take c).failure _ h hc heffect
    | skipped hline hreceiver =>
      rw [Config.lineEffect_of_skipped hline]
      exact h

/-! ### Whole runs -/

/-- The items are counted up to the one whose telegrams the sink has not taken. -/
def CountsUpTo (effect : α → Effect) (start : Run σ) (items : List α) (run : Run σ) : Prop :=
  ∃ pre a post, items = pre ++ a :: post ∧
    (Sink.takeAll start.sink (Effect.allTelegrams effect pre)).2 = true ∧
      (Sink.takeAll start.sink (Effect.allTelegrams effect (pre ++ [a]))).2 = false ∧
        run.receiver.stats = start.receiver.stats + Effect.tallies effect (pre ++ [a])

/-- The run has handed the telegrams of the items to the sink, as far as it took them. -/
structure Fed (effect : α → Effect) (start : Run σ) (items : List α) (run : Run σ) : Prop where
  /-- The sink has been given the telegrams of all items. -/
  sink : run.sink = (Sink.takeAll start.sink (Effect.allTelegrams effect items)).1
  /-- The run has ended before its time if the sink has not taken all of them. -/
  failure : run.failure =
    if (Sink.takeAll start.sink (Effect.allTelegrams effect items)).2 then none else some .writerFull
  /-- If it has taken them, then all items are counted. -/
  stats_of_taken : (Sink.takeAll start.sink (Effect.allTelegrams effect items)).2 = true →
    run.receiver.stats = start.receiver.stats + Effect.tallies effect items
  /-- Otherwise they are counted up to the one where it stopped. -/
  stats_of_refused : (Sink.takeAll start.sink (Effect.allTelegrams effect items)).2 = false →
    CountsUpTo effect start items run

/-- A run over items that do not end it is decided by its sink. -/
theorem Feeds.foldl (hstep : Feeds c effect step) (h : start.failure = none)
    (hc : start.receiver.config = c) {items : List α}
    (hitems : Effect.firstFailure? effect items = none) :
    Fed effect start items (items.foldl step start) := by
  induction items generalizing start with
  | nil => exact ⟨rfl, h, fun _ => (add_zero _).symm, fun hrefused => nomatch hrefused⟩
  | cons a items ih =>
    obtain ⟨ha, hrest⟩ := List.forall_mem_cons.1 (Effect.firstFailure?_eq_none_iff.1 hitems)
    have hsink := hstep.sink a h hc ha
    have hfailure := hstep.failure a h hc ha
    have hstats := hstep.stats a h hc
    have hall := Sink.takeAll_append start.sink (effect a).telegrams (Effect.allTelegrams effect items)
    rw [← Effect.allTelegrams_cons, ← hsink] at hall
    cases htaken : (Sink.takeAll start.sink (effect a).telegrams).2 with
    | false =>
      -- The rest of the items finds a run that has ended.
      rw [htaken] at hfailure
      rw [htaken, if_neg Bool.false_ne_true] at hall
      rw [List.foldl_cons, hstep.foldl_of_failure hfailure]
      refine ⟨by rw [hall, hsink], by rw [hall, htaken, hfailure], fun h => ?_, fun _ => ?_⟩
      · rw [hall, htaken] at h
        cases h
      · refine ⟨[], a, items, rfl, rfl, ?_, ?_⟩
        · simpa [Effect.allTelegrams] using htaken
        · simpa [Effect.tallies] using hstats
    | true =>
      -- The run goes on over the rest as if it had started behind the item.
      rw [htaken] at hfailure
      rw [htaken, if_pos rfl] at hall
      have hfed := ih hfailure ((hstep.config _ _).trans hc) (Effect.firstFailure?_eq_none_iff.2 hrest)
      refine ⟨by rw [hall]; exact hfed.sink, by rw [hall]; exact hfed.failure, fun h => ?_, fun h => ?_⟩
      · rw [List.foldl_cons, hfed.stats_of_taken (hall ▸ h), hstats, Effect.tallies_cons, add_assoc]
      · obtain ⟨pre, b, post, rfl, hpre, hb, hcounted⟩ := hfed.stats_of_refused (hall ▸ h)
        refine ⟨a :: pre, b, post, rfl, ?_, ?_, ?_⟩
        · rw [Effect.allTelegrams_cons, Sink.takeAll_append, htaken, if_pos rfl, ← hsink, hpre]
        · rw [List.cons_append, Effect.allTelegrams_cons, Sink.takeAll_append, htaken, if_pos rfl,
            ← hsink, hb]
        · rw [List.foldl_cons, hcounted, hstats, List.cons_append, Effect.tallies_cons, add_assoc]

end Receiver.Run

end MeterBridge
