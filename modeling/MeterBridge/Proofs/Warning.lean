import MeterBridge.Proofs.Action
import MeterBridge.Proofs.Throttle
import Mathlib.Data.List.Count

/-!
# Repeated warnings

A receiver warns of lengths that only the fallback has a rule for, and of rejected candidates. Each outcome
asks for its warnings (`Outcome.warnings`), and a history asks for those of its outcomes
(`filterMap_warning?_gather`). Every warning is a request to the bank of the receiver, and it is entered if
the bank lets it through.

* `Event.countP_entries` — in the log a warning is known by what it begins with, and nothing else begins
  like it.
* `HasEntered.act`, `HasEntered.foldl` — while the window lasts, the log has the first five warnings of each
  kind; every action keeps this, and so do all of them.
* `warnings_throttled` — so the warnings in the log follow from the numbers of fallbacks and of rejections,
  each kind from its own. Banks do this for any categories, with resets in between.
-/

namespace MeterBridge

open Throttle (Bank)
open Throttle.Bank (Step InWindow IsCountable IsThrottled requestsSince Tracks)

/-- The warnings that an outcome asks for, in their order. -/
def Outcome.warnings (o : Outcome) : List Receiver.Warning :=
  (if o.extraction.choice.isFallback then [.unrecognizedLength] else []) ++
    o.rejections.map fun _ => .rejected

namespace Receiver

/-! ### Warnings in the log -/

namespace Warning

/-- What every warning of a kind begins with. -/
def label : Warning → String
  | unrecognizedLength => "Unrecognized length"
  | rejected => "Rejected candidate"

/-- The log entry is a warning of this kind. -/
def isShownBy (w : Warning) (entry : Log.Entry) : Bool :=
  entry.level = .warn && w.label.toList.isPrefixOf entry.text.toList

end Warning

/-- The warnings of a kind in the log. -/
def warnings (r : Receiver) (w : Warning) : Nat := r.entries.countP w.isShownBy

/-- Entries that are no warnings, or that begin like the reports of a session log, show no kind. -/
theorem Warning.countP_eq_zero (w : Warning) {entries : List Log.Entry}
    (h : ∀ entry ∈ entries, entry.level = .warn → entry.text.toList.head? = some 'S') :
    entries.countP w.isShownBy = 0 := by
  refine List.countP_eq_zero.2 fun entry hentry hshown => ?_
  obtain ⟨hlevel, hlabel⟩ := Bool.and_eq_true_iff.1 hshown
  obtain ⟨rest, hrest⟩ := List.isPrefixOf_iff_prefix.1 hlabel
  have hhead := h entry hentry (of_decide_eq_true hlevel)
  rw [← hrest] at hhead
  cases w <;> exact absurd (Option.some.inj hhead) (by decide)

/-- A warning that begins with the label of a kind shows this kind alone. -/
theorem Warning.isShownBy_eq {entry : Log.Entry} (own w : Warning) (hlevel : entry.level = .warn)
    (htext : own.label.toList <+: entry.text.toList) : w.isShownBy entry = decide (own = w) := by
  obtain ⟨rest, hrest⟩ := htext
  rw [isShownBy, hlevel, ← hrest]
  cases own <;> cases w <;> rfl

/-- What is reported of a record of a session log begins with another letter than the labels. -/
theorem head?_recordEntry {record : Session.Record} {entry : Log.Entry} (h : entry ∈ record.entries) :
    entry.text.toList.head? = some 'S' := by
  rw [Session.Record.entries] at h
  split at h
  · rcases List.mem_append.1 h with h | h
    · rw [Session.Record.lengthEntries] at h
      split at h
      · split at h
        · cases h
        · rw [List.mem_singleton.1 h]
          simp only [toString, String.toList_append, List.append_assoc]
          rfl
      · cases h
    · rw [Session.Record.timestampEntries] at h
      split at h
      · cases h
      · rw [List.mem_singleton.1 h, String.toList_append]
        rfl
  · cases h

/-- So does what is reported of an item without a payload. -/
theorem head?_skipEntry {item : Session.Item} {entry : Log.Entry} (h : entry ∈ item.skipEntries) :
    entry.text.toList.head? = some 'S' := by
  rw [Session.Item.skipEntries] at h
  split at h
  · cases h
  · rw [List.mem_singleton.1 h]
    simp only [toString, String.toList_append, List.append_assoc]
    rfl

theorem head?_itemEntry {item : Session.Item} {entry : Log.Entry} (h : entry ∈ item.entries) :
    entry.text.toList.head? = some 'S' := by
  rcases List.mem_append.1 h with hrecord | hskip
  · cases hresult : item.record with
    | ok record => rw [hresult] at hrecord; exact head?_recordEntry hrecord
    | error e => rw [hresult] at hrecord; cases hrecord
  · exact head?_skipEntry hskip

/-- An event shows its own kind of warning, in one entry. -/
theorem Event.countP_entries (w : Warning) (event : Event) :
    event.entries.countP w.isShownBy = if event.warning? = some w then 1 else 0 := by
  cases event with
  | received source payload => exact w.countP_eq_zero (by simp [entries, Log.dump])
  | remarked remark =>
    exact w.countP_eq_zero (by cases remark <;> simp [entries, Extraction.Remark.entries])
  | unrecognized length source rule =>
    rw [entries, List.countP_singleton, Warning.isShownBy_eq .unrecognizedLength w rfl]
    · cases w <;> rfl
    · simp only [toString, String.toList_append, List.append_assoc]
      exact (by decide : _ <+: "Unrecognized length: ".toList).trans (List.prefix_append _ _)
  | accepted telegram source => exact w.countP_eq_zero (by simp [entries, Log.summary])
  | rejected rejection =>
    rw [entries, List.countP_singleton, Warning.isShownBy_eq .rejected w rfl]
    · cases w <;> rfl
    · rw [String.toList_append]
      exact (by decide : _ <+: "Rejected candidate ".toList).trans (List.prefix_append _ _)
  | undecodable cause => exact w.countP_eq_zero (by simp [entries, Line.Reading.entries])
  | sessionRead items =>
    refine w.countP_eq_zero fun entry hentry _ => ?_
    obtain ⟨item, -, hitem⟩ := List.mem_flatMap.1 hentry
    exact head?_itemEntry hitem
  | ended stats => exact w.countP_eq_zero (by simp [entries])

theorem warnings_eq_countP (r : Receiver) (w : Warning) :
    r.warnings w = r.journal.toList.countP fun event => event.warning? = some w := by
  rw [warnings, Receiver.entries]
  induction r.journal.toList with
  | nil => rfl
  | cons event rest ih =>
    rw [List.flatMap_cons, List.countP_append, ih, Event.countP_entries, List.countP_cons, Nat.add_comm]
    simp only [decide_eq_true_eq]

/-! ### Warnings that are asked for -/

theorem filterMap_warning?_settling (source : String) (o : Outcome) :
    (settling source o).filterMap Action.warning? = o.warnings := by
  have hverdicts : (o.verdicts.map (verdictEvent source)).filterMap Event.warning? =
      o.rejections.map fun _ => .rejected := by
    rw [List.filterMap_map, Outcome.rejections, List.map_filterMap]
    refine List.filterMap_congr fun verdict _ => ?_
    cases verdict <;> rfl
  have hevents : (settling source o).filterMap Action.warning? =
      (settlingEvents source o).filterMap Event.warning? :=
    List.filterMap_map ..
  rw [hevents, settlingEvents, List.filterMap_append, List.filterMap_append, hverdicts, Outcome.warnings]
  congr 1
  cases o.extraction.remark <;> cases o.extraction.choice.isFallback <;> rfl

theorem filterMap_warning?_processing (r : Receiver) (n : Notification) :
    (processing r.config n).filterMap Action.warning? =
      (r.process n).1.toOption.toList.flatMap Outcome.warnings := by
  rw [process_fst, processing, List.filterMap_cons_none rfl, List.filterMap_flatMap]
  simp only [filterMap_warning?_settling]

/-- The end of a run is no warning. -/
theorem Run.filterMap_warning?_ending {σ : Type} [Sink σ] (run : Run σ) :
    run.ending.filterMap Action.warning? = [] := by
  rw [ending]
  split <;> rfl

/-- A line asks for the warnings of its payload, if it has one. -/
theorem Run.filterMap_warning?_reading {σ : Type} [Sink σ] (source : String) (x : Run σ × Option String) :
    (reading x.1.receiver.config source x.2).filterMap Action.warning? =
      ((lineRead? source x).bind fun l => l.result?.bind (·.toOption)).toList.flatMap
        Outcome.warnings := by
  obtain ⟨run, line?⟩ := x
  cases line? with
  | none => rfl
  | some line =>
    simp only [lineRead?, Option.map_some, Option.bind_some, LineRead.result?, reading, Line.payload?]
    cases Line.read line with
    | payload payload => exact filterMap_warning?_processing _ _
    | nothing => rfl
    | undecodable cause => rfl

/-- A call asks for the warnings of its outcomes. -/
theorem filterMap_warning?_actions (r : Receiver) (call : Call) :
    (r.actions call).filterMap Action.warning? =
      ((r.results call).filterMap (·.toOption)).flatMap Outcome.warnings := by
  have hone : ∀ result : Except Error Outcome,
      [result].filterMap (·.toOption) = result.toOption.toList := by
    intro result
    cases result <;> rfl
  cases call with
  | process n =>
    rw [actions, results, hone]
    exact filterMap_warning?_processing r n
  | processBare payload =>
    rw [actions, results, hone]
    exact filterMap_warning?_processing r _
  | run sink ns =>
    simp only [actions, results]
    rw [List.filterMap_append, Run.filterMap_warning?_ending, List.append_nil, List.filterMap_flatMap,
      List.filterMap_map, List.filterMap_eq_flatMap_toList, List.flatMap_assoc]
    simp only [filterMap_warning?_processing, Function.comp_apply]
  | runText sink source text =>
    simp only [actions, results, linesRead]
    rw [List.filterMap_append, Run.filterMap_warning?_ending, List.append_nil, List.filterMap_flatMap,
      List.filterMap_filterMap, List.filterMap_filterMap, List.filterMap_eq_flatMap_toList,
      List.flatMap_assoc]
    simp only [Run.filterMap_warning?_reading]
  | wait clock => rfl

/-- A history asks for the warnings of its outcomes. -/
theorem filterMap_warning?_gather (r : Receiver) (calls : List Call) :
    (r.gather actions calls).filterMap Action.warning? = (r.outcomes calls).flatMap Outcome.warnings := by
  rw [outcomes]
  induction calls generalizing r with
  | nil => rfl
  | cons call rest ih =>
    rw [gather, gather, List.filterMap_append, List.filterMap_append, List.flatMap_append, ih,
      filterMap_warning?_actions]

/-! ### Warnings that are entered -/

namespace Action

/-- The reading of the clock after an action. -/
def clock (before : Nat) : Action → Nat
  | wait clock => clock
  | _ => before

/-- What an action asks of the bank at a time. -/
def step? (time : Nat) (a : Action) : Option (Step Warning) :=
  a.warning?.map fun w => { time, command := .allow w }

/-- What actions ask of the bank, from a reading of the clock on. -/
def steps (time : Nat) : List Action → List (Step Warning)
  | [] => []
  | a :: rest => (a.step? time).toList ++ steps (a.clock time) rest

/-- Actions only ask for warnings. -/
theorem map_command_steps (time : Nat) (acts : List Action) :
    (steps time acts).map (·.command) = (acts.filterMap warning?).map .allow := by
  induction acts generalizing time with
  | nil => rfl
  | cons a rest ih =>
    rw [steps, List.map_append, ih, List.filterMap_cons, step?]
    cases a.warning? <;> rfl

/-- So nothing resets a kind of warning, and all requests for it count. -/
theorem requestsSince_steps (w : Warning) (time : Nat) (acts : List Action) :
    requestsSince w (steps time acts) = (acts.filterMap warning?).count w := by
  have hcommand := map_command_steps time acts
  rw [Bank.requestsSince_eq_countP]
  · have hcount : ((steps time acts).map (·.command)).count (.allow w) =
        (steps time acts).countP fun s => s.command = .allow w := by
      rw [List.count, List.countP_map]
      rfl
    rw [← hcount, hcommand]
    exact List.count_map_of_injective _ _ (fun _ _ => Bank.Command.allow.inj) _
  · intro s hs
    have hmem : s.command ∈ (steps time acts).map (·.command) := List.mem_map_of_mem hs
    rw [hcommand] at hmem
    obtain ⟨w', -, hw'⟩ := List.mem_map.1 hmem
    rw [← hw']
    rfl

end Action

/-- An event that is entered adds its own kind of warning to the log. -/
theorem warnings_report (r : Receiver) (event : Event) (w : Warning) :
    (r.report event).warnings w = r.warnings w + if event.warning? = some w then 1 else 0 := by
  rw [warnings_eq_countP, warnings_eq_countP, report, Array.toList_push, List.countP_append,
    List.countP_singleton]
  simp only [decide_eq_true_eq]

theorem warn_throttles (r : Receiver) (w : Warning) (event : Event) :
    (r.warn w event).throttles = r.throttles.after { time := r.clock, command := .allow w } := by
  dsimp only [warn]
  split <;> rfl

theorem warn_clock (r : Receiver) (w : Warning) (event : Event) :
    (r.warn w event).clock = r.clock := by
  dsimp only [warn]
  split <;> rfl

/-- The bank decides whether a warning is added to the log. -/
theorem warnings_warn (r : Receiver) {event : Event} {own : Warning} (h : event.warning? = some own)
    (w : Warning) : (r.warn own event).warnings w =
      r.warnings w + if (r.throttles.allow own r.clock).1 = true ∧ own = w then 1 else 0 := by
  dsimp only [warn]
  cases (r.throttles.allow own r.clock).1 with
  | true =>
    rw [if_pos rfl, warnings_report, h]
    simp only [Option.some.injEq, true_and]
    rfl
  | false => rfl

theorem act_clock (r : Receiver) (a : Action) : (r.act a).clock = a.clock r.clock := by
  cases a with
  | wait clock => rfl
  | count tally => rfl
  | enter event =>
    rw [act, enter]
    cases event.warning? with
    | none => rfl
    | some w => exact warn_clock r w event

/-- After what was asked of its bank the log of the receiver has the warnings that were let through. -/
structure HasEntered (before : List (Step Warning)) (r : Receiver) : Prop where
  /-- The bank has counted the requests of each kind. -/
  tracks : Tracks throttleWindow throttleCap before r.throttles
  /-- The log has the first warnings of each kind. -/
  warnings_eq : ∀ w, r.warnings w = min throttleCap (requestsSince w before)

namespace HasEntered

variable {before : List (Step Warning)} {r : Receiver}

/-- A new receiver has entered nothing. -/
theorem of_new {c : Config} (h : new c = .ok r) : HasEntered [] r := by
  obtain ⟨hc, rfl⟩ := eq_ofValid_of_new h
  exact ⟨Bank.tracks_new _ _, fun w => rfl⟩

/-- A warning inside the window, whether it is let through or not. -/
theorem warn (h : HasEntered before r) {event : Event} {own : Warning} (hevent : event.warning? = some own)
    (hwindow : ∀ s ∈ before, r.clock ≤ s.time + throttleWindow) :
    HasEntered (before ++ [{ time := r.clock, command := .allow own }]) (r.warn own event) where
  tracks := by
    rw [warn_throttles]
    exact h.tracks.after hwindow
  warnings_eq w := by
    have hwarnings := h.warnings_eq w
    have hallowed := h.tracks.allow_iff hwindow own
    rw [warnings_warn r hevent]
    by_cases hown : own = w
    · subst hown
      rw [Bank.requestsSince_concat_allow]
      by_cases hless : requestsSince own before < throttleCap
      · rw [if_pos ⟨hallowed.2 hless, rfl⟩]
        omega
      · rw [if_neg fun hboth => hless (hallowed.1 hboth.1)]
        omega
    · rw [(Bank.requestsSince_concat_of_ne hown).1, if_neg fun hboth => hown hboth.2]
      exact hwarnings

/-- An action inside the window. -/
theorem act (h : HasEntered before r) (a : Action)
    (hwindow : InWindow throttleWindow (before ++ (a.step? r.clock).toList)) :
    HasEntered (before ++ (a.step? r.clock).toList) (r.act a) := by
  cases a with
  | wait clock =>
    rw [show (Action.wait clock).step? r.clock = none from rfl, Option.toList_none, List.append_nil]
    exact ⟨h.tracks, h.warnings_eq⟩
  | count tally =>
    rw [show (Action.count tally).step? r.clock = none from rfl, Option.toList_none, List.append_nil]
    exact ⟨h.tracks, h.warnings_eq⟩
  | enter event =>
    have hstep : (Action.enter event).step? r.clock =
        event.warning?.map fun w => { time := r.clock, command := .allow w } := rfl
    rw [hstep] at hwindow ⊢
    rw [Receiver.act, enter]
    cases hevent : event.warning? with
    | none =>
      rw [Option.map_none, Option.toList_none, List.append_nil]
      refine ⟨h.tracks, fun w => ?_⟩
      rw [warnings_report, hevent, if_neg nofun]
      exact h.warnings_eq w
    | some own =>
      rw [hevent] at hwindow
      exact h.warn hevent (Bank.inWindow_concat.1 hwindow).2

/-- All actions inside the window. -/
theorem foldl (h : HasEntered before r) (acts : List Action)
    (hwindow : InWindow throttleWindow (before ++ Action.steps r.clock acts)) :
    HasEntered (before ++ Action.steps r.clock acts) (acts.foldl Receiver.act r) := by
  induction acts generalizing before r with
  | nil => rwa [Action.steps, List.append_nil]
  | cons a rest ih =>
    rw [Action.steps, ← List.append_assoc, ← act_clock] at hwindow ⊢
    exact ih (h.act a (hwindow.sublist (List.sublist_append_left _ _))) hwindow

end HasEntered

/-! ### Whole histories -/

theorem count_unrecognizedLength (os : List Outcome) :
    (os.flatMap Outcome.warnings).count .unrecognizedLength =
      os.countP (·.extraction.choice.isFallback) := by
  induction os with
  | nil => rfl
  | cons o rest ih =>
    have hrejections : (o.rejections.map fun _ => Warning.rejected).count .unrecognizedLength = 0 :=
      List.count_eq_zero.2 fun h => by simp at h
    rw [List.flatMap_cons, List.count_append, ih, List.countP_cons, Outcome.warnings, List.count_append,
      hrejections, Nat.add_zero, Nat.add_comm]
    cases o.extraction.choice.isFallback <;> rfl

theorem count_rejected (os : List Outcome) :
    (os.flatMap Outcome.warnings).count .rejected = (os.flatMap (·.rejections)).length := by
  induction os with
  | nil => rfl
  | cons o rest ih =>
    have hrejections : (o.rejections.map fun _ => Warning.rejected).count .rejected =
        o.rejections.length := by
      rw [List.map_const', List.count_replicate_self]
    rw [List.flatMap_cons, List.count_append, ih, List.flatMap_cons, List.length_append, Outcome.warnings,
      List.count_append, hrejections]
    cases o.extraction.choice.isFallback <;> simp

/-- The log of the receiver warns of these outcomes, five times at most for each kind of warning. -/
structure WarnsOf (r : Receiver) (os : List Outcome) : Prop where
  /-- Each outcome that used the fallback is a warning. -/
  unrecognizedLength : r.warnings .unrecognizedLength =
    min 5 (os.countP (·.extraction.choice.isFallback))
  /-- Each rejection is a warning. -/
  rejected : r.warnings .rejected = min 5 (os.flatMap (·.rejections)).length

/-- A new receiver that is used inside one window warns of its outcomes, wherever the clock goes on. -/
theorem warnsOf_foldl {c : Config} {r : Receiver} (hnew : new c = .ok r) {calls : List Call}
    {acts : List Action} (hacts : Action.SameButClock acts (r.gather actions calls))
    (hwindow : InWindow throttleWindow (Action.steps r.clock acts)) :
    (acts.foldl act r).WarnsOf (r.outcomes calls) := by
  have hentered := (HasEntered.of_new hnew).foldl acts hwindow
  have hwarnings : ∀ w, (acts.foldl act r).warnings w =
      min throttleCap (((r.outcomes calls).flatMap Outcome.warnings).count w) := by
    intro w
    rw [hentered.warnings_eq, List.nil_append, Action.requestsSince_steps, hacts.filterMap_warning?,
      filterMap_warning?_gather]
  constructor
  · rw [hwarnings, count_unrecognizedLength]
    rfl
  · rw [hwarnings, count_rejected]
    rfl

/-- **Warnings are throttled by kind**: inside one window, a bank lets a request through if and only if
fewer requests than its cap have been made in the same category since the last reset of that category,
whatever was asked of other categories; so the log of a new receiver, in whatever way it is used, has a
warning for each of the first five outcomes that used the fallback and for each of the first five
rejections. -/
theorem warnings_throttled :
    (∀ {κ : Type} [DecidableEq κ] (window cap : Nat) (steps : List (Step κ)),
      InWindow window steps → IsCountable steps → ∀ before now category rest,
        before ++ { time := now, command := .allow category } :: rest = steps →
          IsThrottled window cap before category now) ∧
    (∀ {c : Config} {r : Receiver}, new c = .ok r → ∀ calls : List Call,
      (r.gather actions calls).foldl act r = r.afterAll calls ∧
        ∀ acts, Action.SameButClock acts (r.gather actions calls) →
          InWindow throttleWindow (Action.steps r.clock acts) →
            (acts.foldl act r).WarnsOf (r.outcomes calls)) := by
  constructor
  · intro κ _ window cap steps hwindow hcount before now category rest hsteps
    exact Bank.isThrottled_of_inWindow hwindow hcount cap hsteps
  · intro c r hnew calls
    exact ⟨(afterAll_eq_foldl r calls).symm, fun acts => warnsOf_foldl hnew⟩

/-- The configuration that has only a fallback. -/
def fallbackConfig : Config := Config.standard.withRules (.ofRows [] (some (.singleFrame 1)))

/-- Bare bytes, of which nothing is cut, and an envelope with a candidate that is too short. -/
def noisyHistory : List Call :=
  let bare := [0x00]
  let wrapped := Envelope.wrap [0x00]
  [.run Collector.empty [.arriving bare "-", .arriving wrapped "-", .arriving bare "-"], .wait 400,
    .processBare wrapped, .processBare bare, .wait 1000, .processBare bare, .processBare wrapped]

/-- Requests in two categories, between resets of one and of both. -/
def mixedSteps : List (Step String) :=
  [⟨0, .resetAll⟩, ⟨1, .allow "a"⟩, ⟨2, .allow "b"⟩, ⟨3, .reset "b"⟩, ⟨3, .allow "a"⟩, ⟨5, .allow "a"⟩,
    ⟨7, .resetAll⟩, ⟨9, .allow "a"⟩]

theorem warnings_throttled_mixed :
    IsThrottled 1000 2 (mixedSteps.take 5) "a" 5 ∧ IsThrottled 1000 2 (mixedSteps.take 7) "a" 9 ∧
      ∃ r, new fallbackConfig = .ok r ∧
        let used := (.wait 300 :: r.gather actions noisyHistory).foldl act r
        used.warnings .unrecognizedLength = 5 ∧ used.warnings .rejected = 3 := by
  obtain ⟨hbank, hreceiver⟩ := warnings_throttled
  have hrequest := hbank 1000 2 mixedSteps (by decide) (Bank.isCountable_of_length_lt (by decide))
  have hnew := new_eq_ok (c := fallbackConfig) (by decide)
  have hsame : ∀ acts, Action.SameButClock (.wait 300 :: acts) acts := fun _ => rfl
  have hwarns := (hreceiver hnew noisyHistory).2 _ (hsame _) (by decide)
  refine ⟨hrequest _ _ _ _ rfl, hrequest _ _ _ _ rfl, _, hnew, ?_, ?_⟩
  · exact hwarns.unrecognizedLength
  · exact hwarns.rejected

end Receiver

end MeterBridge
