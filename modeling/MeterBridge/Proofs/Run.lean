import MeterBridge.Proofs.Receiver

/-!
# Runs

What a run over lines leaves behind, step by step. A run that has not ended is described by its
configuration, its statistics and the telegrams it has written (`IsLive`); of a run that may have ended
before its time it is enough to know what it has written (`Wrote`), since nothing is written after that.

* `IsLive.take` — a notification with an outcome adds its telegrams to the output and its tally to the
  statistics.
* `wrote_runText` — whatever is read, and however the run ends, the output is made of the lines of
  telegrams of the meter.
-/

namespace MeterBridge

/-! ### A writer without a limit -/

namespace LineWriter

/-- The lines of telegrams. -/
def text (format : LineFormat) (ts : List Telegram) : List Char :=
  ts.flatMap fun t => (format.line t).toList

/-- The writer without a limit that has written the lines of these telegrams. -/
def unlimited (format : LineFormat) (ts : List Telegram) : LineWriter :=
  { format, room := none, output := String.ofList (text format ts), written := ts.length }

theorem take_unlimited (format : LineFormat) (ts : List Telegram) (t : Telegram) :
    (unlimited format ts).take t = (unlimited format (ts ++ [t]), true) := by
  simp [take, unlimited, text]

theorem takeAll_unlimited (format : LineFormat) (ts us : List Telegram) :
    Sink.takeAll (unlimited format ts) us = (unlimited format (ts ++ us), true) := by
  induction us generalizing ts with
  | nil => rw [List.append_nil]; rfl
  | cons t us ih =>
    have htake : Sink.take (unlimited format ts) t = (unlimited format (ts ++ [t]), true) :=
      take_unlimited format ts t
    rw [Sink.takeAll, htake]
    simp only [ih, List.append_assoc, List.singleton_append]

end LineWriter

namespace Receiver.Run

/-! ### One notification -/

section Step

variable {σ : Type} [Sink σ] {run : Run σ} {n : Notification}

/-- A run that has ended does not go on. -/
theorem take_of_failure {e : Error} (h : run.failure = some e) : run.take n = run := by
  rw [take, h]
  rfl

/-- What becomes of the telegrams of a notification is decided by the sink. -/
theorem take_of_outcome {o : Outcome} (h : run.failure = none)
    (hprocess : (run.receiver.process n).1 = .ok o) :
    run.take n =
      { receiver := (run.receiver.process n).2
        sink := (Sink.takeAll run.sink o.telegrams).1
        failure := if (Sink.takeAll run.sink o.telegrams).2 then none else some .writerFull } := by
  rw [take, h]
  rcases hresult : run.receiver.process n with ⟨result, receiver⟩
  rw [hresult] at hprocess
  subst hprocess
  rcases hsink : Sink.takeAll run.sink o.telegrams with ⟨sink, taken⟩
  cases taken <;> simp [hsink]

/-- Telegrams that the sink takes go into it. -/
theorem take_of_ok {o : Outcome} {sink : σ} (h : run.failure = none)
    (hprocess : (run.receiver.process n).1 = .ok o)
    (hsink : Sink.takeAll run.sink o.telegrams = (sink, true)) :
    run.take n = { receiver := (run.receiver.process n).2, sink, failure := none } := by
  rw [take_of_outcome h hprocess, hsink]
  rfl

/-- A notification without an outcome ends the run. -/
theorem take_of_error {e : Error} (h : run.failure = none)
    (hprocess : (run.receiver.process n).1 = .error e) :
    run.take n = { run with receiver := (run.receiver.process n).2, failure := some e } := by
  rw [take, h]
  rcases hresult : run.receiver.process n with ⟨result, receiver⟩
  rw [hresult] at hprocess
  subst hprocess
  rfl

/-- A line with a payload is a notification. -/
theorem takeLine_of_payload {source line : String} {payload : Bytes} (h : run.failure = none)
    (hline : Line.read line = .payload payload) :
    run.takeLine source (some line) = run.take (.arriving payload source) := by
  rw [takeLine, h]
  simp only [hline]
  rfl

end Step

variable {c : Config} {format : LineFormat} {ts : List Telegram} {s : Stats} {run : Run LineWriter}
  {n : Notification} {source : String}

/-! ### Runs that go on -/

/-- The run has not ended, and this is what it has done. -/
structure IsLive (c : Config) (format : LineFormat) (ts : List Telegram) (s : Stats)
    (run : Run LineWriter) : Prop where
  /-- Nothing has ended the run. -/
  failure : run.failure = none
  /-- The configuration of the receiver. -/
  config : run.receiver.config = c
  /-- The statistics of the receiver. -/
  stats : run.receiver.stats = s
  /-- What is written. -/
  sink : run.sink = .unlimited format ts

theorem isLive_start (r : Receiver) (format : LineFormat) :
    IsLive r.config format [] r.stats { receiver := r, sink := .new format none, failure := none } :=
  ⟨rfl, rfl, rfl, rfl⟩

/-- A notification with an outcome adds its telegrams and its tally. -/
theorem IsLive.take (h : IsLive c format ts s run) {o : Outcome} (ho : c.outcome n.payload = .ok o) :
    IsLive c format (ts ++ o.telegrams) (s + .ofOutcome o) (run.take n) := by
  have hprocess : (run.receiver.process n).1 = .ok o := by rw [process_fst, h.config, ho]
  have hsink : Sink.takeAll run.sink o.telegrams =
      (LineWriter.unlimited format (ts ++ o.telegrams), true) := by
    rw [h.sink, LineWriter.takeAll_unlimited]
  rw [take_of_ok h.failure hprocess hsink]
  refine ⟨rfl, ?_, ?_, rfl⟩
  · exact (process_config _ _).trans h.config
  · exact (process_stats hprocess).trans (h.stats ▸ rfl)

theorem IsLive.finish (h : IsLive c format ts s run) : IsLive c format ts s run.finish := by
  unfold Run.finish
  rw [h.failure]
  exact ⟨rfl, h.config, h.stats, h.sink⟩

/-! ### What is written -/

/-- The run has written the lines of telegrams of the meter. -/
structure Wrote (c : Config) (format : LineFormat) (ts : List Telegram) (run : Run LineWriter) :
    Prop where
  /-- The configuration of the receiver. -/
  config : run.receiver.config = c
  /-- What is written. -/
  sink : run.sink = .unlimited format ts
  /-- All that is written are telegrams. -/
  genuine : ∀ t ∈ ts, c.IsTelegram t.bytes

/-- A notification adds telegrams of the meter, or it ends the run. -/
theorem Wrote.take (h : Wrote c format ts run) (n : Notification) :
    ∃ ts', Wrote c format ts' (run.take n) := by
  cases hfailure : run.failure with
  | some e =>
    rw [take_of_failure hfailure]
    exact ⟨ts, h⟩
  | none =>
    cases houtcome : c.outcome n.payload with
    | ok o =>
      have hlive : IsLive c format ts run.receiver.stats run := ⟨hfailure, h.config, rfl, h.sink⟩
      have hnext := hlive.take houtcome
      have hsettled := Config.isSettled_of_outcome (h.config ▸ run.receiver.isValid) houtcome
      refine ⟨_, hnext.config, hnext.sink, fun t ht => ?_⟩
      rcases List.mem_append.1 ht with ht | ht
      · exact h.genuine t ht
      · exact hsettled.isTelegram_of_mem ht
    | error e =>
      have hprocess : (run.receiver.process n).1 = .error e := by rw [process_fst, h.config, houtcome]
      rw [take_of_error hfailure hprocess]
      exact ⟨ts, (process_config _ _).trans h.config, h.sink, h.genuine⟩

/-- So does a line; a line without a payload is only counted, and one that is no text ends the run. -/
theorem Wrote.takeLine (h : Wrote c format ts run) (source : String) (line : Option String) :
    ∃ ts', Wrote c format ts' (run.takeLine source line) := by
  unfold Run.takeLine
  split
  · exact ⟨ts, h⟩
  · split
    · exact ⟨ts, h.config, h.sink, h.genuine⟩
    · split
      · exact h.take _
      · exact ⟨ts, h.config, h.sink, h.genuine⟩
      · exact ⟨ts, h.config, h.sink, h.genuine⟩

theorem Wrote.foldl (h : Wrote c format ts run) (source : String) (lines : List (Option String)) :
    ∃ ts', Wrote c format ts' (lines.foldl (Run.takeLine source) run) := by
  induction lines generalizing ts run with
  | nil => exact ⟨ts, h⟩
  | cons line lines ih =>
    obtain ⟨ts', h'⟩ := h.takeLine source line
    exact ih h'

theorem Wrote.finish (h : Wrote c format ts run) : Wrote c format ts run.finish := by
  rw [Run.finish]
  split
  · exact h
  · exact ⟨h.config, h.sink, h.genuine⟩

end Receiver.Run

/-- **Output of a run**: whatever is read, and however the run ends, the output is made of the lines of
telegrams of the meter. -/
theorem Receiver.wrote_runText (r : Receiver) (format : LineFormat) (source : String) (text : Bytes) :
    ∃ ts, Run.Wrote r.config format ts (r.runText (LineWriter.new format none) source text) := by
  have hstart : Run.Wrote r.config format []
      { receiver := r, sink := LineWriter.new format none, failure := none } :=
    ⟨rfl, rfl, fun t ht => nomatch ht⟩
  obtain ⟨ts, h⟩ := hstart.foldl source (Text.utf8Lines text)
  exact ⟨ts, h.finish⟩

end MeterBridge
