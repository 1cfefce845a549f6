import MeterBridge.Proofs.Effect
import MeterBridge.Proofs.Lines

/-!
# Interrupted runs

With a reliable sink a run ends before its time only by an item that fails: a notification without a rule
for its length, or a line that cannot be read or carries such a payload. Then the first such item decides
the error, and what is left is what a run over the items in front of it leaves (`BreaksOff`): their
telegrams are in the sink, their tallies in the statistics, and nothing of the item that failed.
-/

namespace MeterBridge

namespace Config

variable {c : Config} {e : Error}

/-- A notification fails if there is no rule for its length. -/
def NotificationFails (c : Config) (n : Notification) (e : Error) : Prop :=
  c.rules.LacksRule n.payload.length ∧ e = .noRule n.payload.length

/-- A line fails if it cannot be read, or if there is no rule for the length of its payload. -/
inductive LineFails (c : Config) : Option String → Error → Prop where
  /-- It is no text. -/
  | unreadable : LineFails c none .unreadableLine
  /-- It carries a payload. -/
  | ruleless {line : String} {payload : Bytes} : Line.payload? line = some payload →
      c.rules.LacksRule payload.length → LineFails c (some line) (.noRule payload.length)

theorem failure?_lineEffect {line : Option String} :
    (c.lineEffect line).failure? = some e ↔ c.LineFails line e := by
  cases line with
  | none =>
    constructor
    · intro h
      cases h
      exact .unreadable
    · intro h
      cases h
      rfl
  | some line =>
    cases hline : Line.payload? line with
    | none =>
      rw [lineEffect_of_skipped hline]
      constructor
      · intro h
        cases h
      · intro h
        cases h with
        | ruleless hpayload => rw [hline] at hpayload; cases hpayload
    | some payload =>
      rw [lineEffect_of_payload hline, failure?_effect]
      constructor
      · rintro ⟨hlacks, rfl⟩
        exact .ruleless hline hlacks
      · intro h
        cases h with
        | ruleless hpayload hlacks =>
          rw [hline] at hpayload
          cases hpayload
          exact ⟨hlacks, rfl⟩

end Config

namespace Receiver.Run

variable {σ α β : Type} [Sink σ]

/-- A run over an input of items ends before its time if an item fails, and then it leaves what a run
over the items in front of the first such item leaves. -/
structure BreaksOff (items : List β → List α) (fails : α → Error → Prop)
    (telegrams : α → List Telegram) (runOver : List β → Run σ) (sink : σ) (input : List β) : Prop where
  /-- The run gives an error if some item fails. -/
  fails_iff : (∃ e, (runOver input).result = .error e) ↔ ∃ x ∈ items input, ∃ e, fails x e
  /-- It is the error of the first such item. -/
  error_iff : ∀ e, (runOver input).result = .error e ↔
    ∃ pre x post, items input = pre ++ x :: post ∧ (∀ y ∈ pre, ∀ e', ¬ fails y e') ∧ fails x e
  /-- The sink has the telegrams of the items in front of it. The input begins with these items, and
  a run over them leaves the same statistics. -/
  remains : ∀ pre x post e, items input = pre ++ x :: post → (∀ y ∈ pre, ∀ e', ¬ fails y e') →
    fails x e → (runOver input).sink = Sink.given sink (pre.flatMap telegrams) ∧
      ∃ front, front <+: input ∧ items front = pre ∧
        (runOver front).result = .ok (runOver front).receiver.stats ∧
          (runOver input).receiver.stats = (runOver front).receiver.stats

/-- A run that is decided by the effects of its items breaks off at the first item that ends it. -/
theorem breaksOff_of_isOver {items : List β → List α} {fails : α → Error → Prop}
    {effect : α → Effect} {runOver : List β → Run σ} {r : Receiver} {sink : σ}
    (hfails : ∀ x e, (effect x).failure? = some e ↔ fails x e)
    (hover : ∀ input, IsOver effect r sink (items input) (runOver input))
    (hparts : ∀ {input pre post}, items input = pre ++ post → ∃ front, front <+: input ∧ items front = pre)
    (input : List β) :
    BreaksOff items fails (fun x => (effect x).telegrams) runOver sink input := by
  have hnone : ∀ x, (effect x).failure? = none ↔ ∀ e, ¬ fails x e := by
    intro x
    rw [Option.eq_none_iff_forall_ne_some]
    exact forall_congr' fun e => not_congr (hfails x e)
  have herror : ∀ e, (runOver input).result = .error e ↔
      ∃ pre x post, items input = pre ++ x :: post ∧ (∀ y ∈ pre, ∀ e', ¬ fails y e') ∧
        fails x e := by
    intro e
    rw [(hover input).result_eq_error_iff, Effect.firstFailure?, List.findSome?_eq_some_iff]
    constructor
    · rintro ⟨pre, x, post, hinput, hx, hpre⟩
      exact ⟨pre, x, post, hinput, fun y hy => (hnone y).1 (hpre y hy), (hfails x e).1 hx⟩
    · rintro ⟨pre, x, post, hinput, hpre, hx⟩
      exact ⟨pre, x, post, hinput, (hfails x e).2 hx, fun y hy => (hnone y).2 (hpre y hy)⟩
  refine ⟨⟨?_, ?_⟩, herror, ?_⟩
  · rintro ⟨e, he⟩
    obtain ⟨pre, x, post, hinput, -, hx⟩ := (herror e).1 he
    refine ⟨x, ?_, e, hx⟩
    rw [hinput]
    exact List.mem_append_right pre List.mem_cons_self
  · rintro ⟨x, hx, e, he⟩
    cases hfirst : Effect.firstFailure? effect (items input) with
    | none =>
      have hx' := Effect.firstFailure?_eq_none_iff.1 hfirst x hx
      exact absurd he ((hnone x).1 hx' e)
    | some e' => exact ⟨e', (hover input).result_eq_error_iff.2 hfirst⟩
  · intro pre x post e hinput hpre hx
    have hpre' : Effect.firstFailure? effect pre = none :=
      Effect.firstFailure?_eq_none_iff.2 fun y hy => (hnone y).2 (hpre y hy)
    have hbefore : Effect.before effect (items input) = pre := by
      rw [hinput, Effect.before_append hpre', Effect.before_cons_of_some ((hfails x e).2 hx),
        List.append_nil]
    have hfailure : (runOver input).failure = some e := by
      rw [(hover input).failure, ← (hover input).result_eq_error_iff, herror]
      exact ⟨pre, x, post, hinput, hpre, hx⟩
    obtain ⟨front, hfront, hitems⟩ := hparts hinput
    have hfirst : Effect.firstFailure? effect (items front) = none := by rw [hitems, hpre']
    have hstats : (runOver front).receiver.stats = r.stats + Effect.tallies effect pre := by
      rw [(hover front).stats, Effect.before_eq_self hfirst, hitems]
    refine ⟨?_, front, hfront, hitems, ?_, ?_⟩
    · have hgave := (hover input).gave
      rw [HasGiven, hfailure, hbefore] at hgave
      exact hgave
    · rw [(hover front).result_eq_ok hfirst, hstats, hitems]
    · rw [(hover input).stats, hbefore, hstats]

end Receiver.Run

namespace Receiver

variable {σ : Type} [Sink σ] {sink : σ}

/-- **Interruption**: with a reliable sink, a run over notifications breaks off at the first one that has
no rule for its length, and a run over a text at the first line that cannot be read or carries such a
payload. -/
theorem run_breaksOff (r : Receiver) (hsink : Sink.IsReliable sink) :
    (∀ ns, Run.BreaksOff id r.config.NotificationFails
      (fun n : Notification => (r.config.effect n.payload).telegrams) (r.run sink) sink ns) ∧
    ∀ source text, Run.BreaksOff Text.utf8Lines r.config.LineFails
      (fun line => (r.config.lineEffect line).telegrams) (r.runText sink source) sink text := by
  constructor
  · intro ns
    exact Run.breaksOff_of_isOver (fun n e => Config.failure?_effect) (r.isOver_run hsink)
      (fun h => ⟨_, ⟨_, h.symm⟩, rfl⟩) ns
  · intro source text
    exact Run.breaksOff_of_isOver (fun line e => Config.failure?_lineEffect)
      (r.isOver_runText hsink source) Text.exists_prefix_utf8Lines text

/-- Three notifications, of which the second one has no rule if there is but one row. -/
def interrupted : List Notification :=
  [.arriving mixedPayload "-", .arriving [0x00] "-", .arriving mixedPayload "-"]

theorem run_breaksOff_oneRow :
    ∃ r, new .oneRow = .ok r ∧ Sink.IsReliable Collector.empty ∧
      (r.run Collector.empty interrupted).result = .error (.noRule 1) ∧
        (r.run Collector.empty interrupted).sink.telegrams.toList =
          (r.config.effect mixedPayload).telegrams := by
  have hsink := Collector.isReliable .empty
  have hbreaks := (run_breaksOff (ofValid .oneRow (by decide)) hsink).1 interrupted
  have hrule : ¬ Config.oneRow.rules.LacksRule mixedPayload.length := by decide
  have hpre : ∀ n ∈ [Notification.arriving mixedPayload "-"], ∀ e,
      ¬ Config.oneRow.NotificationFails n e := by
    intro n hn e hfails
    rw [List.mem_singleton.1 hn] at hfails
    exact hrule hfails.1
  have hfails : Config.oneRow.NotificationFails (.arriving [0x00] "-") (.noRule 1) :=
    ⟨by decide, rfl⟩
  obtain ⟨hgiven, -⟩ := hbreaks.remains [_] _ [_] _ rfl hpre hfails
  refine ⟨_, new_eq_ok (by decide), hsink, (hbreaks.error_iff _).2 ⟨[_], _, [_], rfl, hpre, hfails⟩, ?_⟩
  rw [hgiven, Collector.toList_given]
  exact List.append_nil _

end Receiver

end MeterBridge
