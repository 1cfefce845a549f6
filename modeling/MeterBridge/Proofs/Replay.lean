import MeterBridge.Proofs.History
import MeterBridge.Proofs.Session
import MeterBridge.Proofs.Transcript

/-!
# Replay

A run over the lines of a text and a run over notifications with the payloads that these lines carry go side
by side: a line with a payload and the notification with this payload are taken in the same way, whatever
their sources, and any other line is skipped on one side while nothing happens on the other (`Mirrors`). Both
may end before their time, by an item or by their sink, and then they do so together.

So the replay of a session log does what live lines have done that carry the payloads of its records
(`replay_repeats`).
-/

namespace MeterBridge

/-! ### Skipped lines -/

/-- The statistics with more lines that were skipped. -/
def Stats.skipping (s : Stats) (k : Nat) : Stats := { s with skippedLines := s.skippedLines + k }

theorem Stats.skipping_add (s t : Stats) (k : Nat) : s.skipping k + t = (s + t).skipping k := by
  have hlines : s.skippedLines + k + t.skippedLines = s.skippedLines + t.skippedLines + k :=
    Nat.add_right_comm _ _ _
  simp only [add_eq, skipping, hlines]

theorem Stats.skipping_add_ofSkippedLine (s : Stats) (k : Nat) :
    s.skipping k + ofSkippedLine = s.skipping (k + 1) := rfl

namespace Receiver

namespace Run

variable {σ : Type} {run live replay : Run σ} {source line : String} {payload : Bytes} {k : Nat}

/-! ### Side by side -/

/-- The live run has done what the replay has, and it has skipped so many lines. -/
structure Mirrors (k : Nat) (live replay : Run σ) : Prop where
  /-- The sinks have come to the same. -/
  sink : live.sink = replay.sink
  /-- Both go on, or the same has ended both. -/
  failure : live.failure = replay.failure
  /-- The configuration is the same. -/
  config : live.receiver.config = replay.receiver.config
  /-- So are the statistics, but for the skipped lines. -/
  stats : live.receiver.stats = replay.receiver.stats.skipping k

/-- The replay has come to what the live run has come to, except that there was nothing to skip. -/
structure Repeats (skipped : Nat) (live replay : Run σ) : Prop where
  /-- The sinks are the same, so what they have written is the same. -/
  sink_eq : live.sink = replay.sink
  /-- Both have succeeded, or both have ended with the same error. -/
  result_eq : live.result = replay.result.map fun s => { s with skippedLines := skipped }
  /-- The statistics are the same but for the lines that the live run has skipped. -/
  stats_eq : live.receiver.stats = { replay.receiver.stats with skippedLines := skipped }
  /-- The replay has skipped none. -/
  skips_none : replay.receiver.stats.skippedLines = 0

theorem Mirrors.repeats (h : Mirrors k live replay) (hzero : replay.receiver.stats.skippedLines = 0) :
    Repeats k live replay := by
  have hstats : live.receiver.stats = { replay.receiver.stats with skippedLines := k } := by
    rw [h.stats, Stats.skipping, hzero, Nat.zero_add]
  refine ⟨h.sink, ?_, hstats, hzero⟩
  rw [result, result, h.failure, hstats]
  cases replay.failure <;> rfl

variable [Sink σ]

/-! ### One step -/

/-- The same payload is taken in the same way, wherever it comes from. -/
theorem Mirrors.take (h : Mirrors k live replay) {n n' : Notification} (hn : n.payload = n'.payload) :
    Mirrors k (live.take n) (replay.take n') := by
  cases hreplay : replay.failure with
  | some e =>
    rw [take_of_failure (h.failure.trans hreplay), take_of_failure hreplay]
    exact h
  | none =>
    have hlive : live.failure = none := h.failure.trans hreplay
    have houtcome : (live.receiver.process n).1 = (replay.receiver.process n').1 := by
      rw [process_fst, process_fst, h.config, hn]
    have hconfig : (live.receiver.process n).2.config = (replay.receiver.process n').2.config := by
      rw [process_config, process_config, h.config]
    have hstats : (live.receiver.process n).2.stats = (replay.receiver.process n').2.stats.skipping k := by
      rw [process_tally, process_tally, h.config, hn, h.stats, Stats.skipping_add]
    cases hprocess : (replay.receiver.process n').1 with
    | ok o =>
      rw [take_of_outcome hlive (houtcome.trans hprocess), take_of_outcome hreplay hprocess, h.sink]
      exact ⟨rfl, rfl, hconfig, hstats⟩
    | error e =>
      rw [take_of_error hlive (houtcome.trans hprocess), take_of_error hreplay hprocess]
      exact ⟨h.sink, rfl, hconfig, hstats⟩

/-- A line with a payload is taken as a notification with it. -/
theorem Mirrors.takeLine (h : Mirrors k live replay) (hlive : live.failure = none)
    (hline : Line.payload? line = some payload) {n : Notification} (hn : n.payload = payload) :
    Mirrors k (live.takeLine source (some line)) (replay.take n) := by
  have hread := readsLine_takeLine source hlive (some line)
  generalize live.takeLine source (some line) = next at hread ⊢
  cases hread with
  | payload hline' =>
    rw [hline] at hline'
    cases hline'
    exact h.take hn.symm
  | skipped hnone =>
    rw [hline] at hnone
    cases hnone

/-- Any other line is skipped, and the replay stays behind. -/
theorem Mirrors.skipLine (h : Mirrors k live replay) (hlive : live.failure = none)
    (hline : Line.payload? line = none) : Mirrors (k + 1) (live.takeLine source (some line)) replay := by
  have hread := readsLine_takeLine source hlive (some line)
  generalize live.takeLine source (some line) = next at hread ⊢
  cases hread with
  | payload hline' =>
    rw [hline] at hline'
    cases hline'
  | skipped _ hreceiver =>
    refine ⟨h.sink, h.failure, hreceiver.config.trans h.config, ?_⟩
    rw [hreceiver.stats, ← Stats.skipping_add_ofSkippedLine, ← h.stats]
    rfl

/-! ### Whole runs -/

/-- How many lines without a payload a run comes to before it has ended. -/
def skips (source : String) (run : Run σ) (lines : List (Option String)) : Nat :=
  ((reached (takeLine source) run lines).filterMap (lineRead? source)).countP LineRead.isSkipped

theorem skips_of_failure {e : Error} (h : run.failure = some e) (lines : List (Option String)) :
    skips source run lines = 0 := by
  rw [skips, reached_of_failure h]
  rfl

theorem skips_cons (h : run.failure = none) (line : String) (lines : List (Option String)) :
    skips source run (some line :: lines) =
      skips source (run.takeLine source (some line)) lines + if (Line.payload? line).isNone then 1 else 0 := by
  have hread : lineRead? source (run, some line) = some
      { before := run.receiver, source, line, after := (run.takeLine source (some line)).receiver } := rfl
  rw [skips, reached_cons h, List.filterMap_cons_some hread, List.countP_cons, skips]
  rfl

/-- Lines and notifications with the same payloads are taken side by side. -/
theorem Mirrors.foldl {lines : List String} {ns : List Notification} (h : Mirrors k live replay)
    (hns : ns.map (·.payload) = lines.filterMap Line.payload?) (source : String) :
    Mirrors (k + skips source live (lines.map some)) ((lines.map some).foldl (Run.takeLine source) live)
      (ns.foldl Run.take replay) := by
  induction lines generalizing live replay k ns with
  | nil =>
    rw [List.map_eq_nil_iff.1 hns]
    exact h
  | cons line lines ih =>
    cases hlive : live.failure with
    | some e =>
      have hreplay : replay.failure = some e := h.failure.symm.trans hlive
      rw [skips_of_failure hlive, (follows_takeLine live.receiver.config source).foldl_of_failure hlive,
        (follows_take replay.receiver.config).foldl_of_failure hreplay]
      exact h
    | none =>
      rw [List.map_cons, List.foldl_cons]
      cases hline : Line.payload? line with
      | none =>
        rw [List.filterMap_cons_none hline] at hns
        rw [skips_cons hlive, hline, Option.isNone_none, if_pos rfl, Nat.add_comm _ 1, ← Nat.add_assoc]
        exact ih (h.skipLine hlive hline) hns
      | some payload =>
        rw [List.filterMap_cons_some hline, List.map_eq_cons_iff] at hns
        obtain ⟨n, rest, rfl, hn, hrest⟩ := hns
        rw [skips_cons hlive, hline, Option.isNone_some, if_neg Bool.false_ne_true, List.foldl_cons]
        exact ih (h.takeLine hlive hline hn) hrest

/-- Runs that go side by side come to their ends together. -/
theorem Mirrors.finish (h : Mirrors k live replay) : Mirrors k live.finish replay.finish := by
  have hconfig : live.finish.receiver.config = replay.finish.receiver.config := by
    rw [(agrees_finish live).config, (agrees_finish replay).config, h.config]
  have hstats : live.finish.receiver.stats = replay.finish.receiver.stats.skipping k := by
    rw [(agrees_finish live).stats, (agrees_finish replay).stats, h.stats]
  have hend : live.finish.sink = replay.finish.sink ∧ live.finish.failure = replay.finish.failure := by
    rw [Run.finish, Run.finish, h.failure, h.sink]
    split
    · exact ⟨h.sink, h.failure⟩
    · split <;> exact ⟨rfl, rfl⟩
  exact ⟨hend.1, hend.2, hconfig, hstats⟩

end Run

/-- A run over notifications skips no lines. -/
theorem run_skippedLines {σ : Type} [Sink σ] (r : Receiver) (sink : σ) (ns : List Notification) :
    (r.run sink ns).receiver.stats.skippedLines = r.stats.skippedLines := by
  obtain ⟨s, hstats, haccount⟩ := r.exists_account (.run sink ns)
  have hzero : s.skippedLines = 0 := haccount.skippedLines
  have hrun : (r.run sink ns).receiver.stats = r.stats + s := hstats
  rw [hrun, Stats.add_eq, hzero, Nat.add_zero]

/-- **Replay**: a text and a session log are given, with lines for payloads in any format, case and line
ends and with any other lines among them, and with records of the same payloads. Then a new receiver makes of
the log what it makes of the text: whatever the sink is, and however the run ends, the sink, the result and
the statistics are the same, except for the other lines that are read before the run has ended, which only
the text has. -/
theorem replay_repeats {c : Config} {r : Receiver} (hnew : new c = .ok r) {payloads : List Bytes}
    (hpayloads : ∀ p ∈ payloads, p ≠ []) {text : List Char} (htext : Transcribes text payloads)
    {log : String} {records : List Session.Record} (hlog : Session.IsLog log records)
    (hrecords : Session.Carry records payloads) {σ : Type} [Sink σ] (sink : σ) (source : String) :
    Run.Repeats ((r.linesRead (.runText sink source (Text.utf8 text))).countP (·.isSkipped))
      (r.runText sink source (Text.utf8 text)) (r.runSession sink log) := by
  let logRead := r.report (.sessionRead (Session.items log))
  have hstart : Run.Mirrors 0 { receiver := r, sink, failure := none }
      { receiver := logRead, sink, failure := none } := ⟨rfl, rfl, rfl, rfl⟩
  have hlines : Text.utf8Lines (Text.utf8 text) = ((Text.lines text).map String.ofList).map some := by
    rw [Text.utf8Lines_utf8, List.map_map]
    rfl
  have hsame : (Session.notifications log).map (·.payload) =
      ((Text.lines text).map String.ofList).filterMap Line.payload? := by
    rw [hlog.notifications_eq, hrecords.map_kept hpayloads, htext.filterMap_lines hpayloads]
  have hruns := (hstart.foldl hsame source).finish
  rw [← hlines, Nat.zero_add] at hruns
  refine hruns.repeats ((logRead.run_skippedLines sink _).trans ?_)
  obtain ⟨hc, rfl⟩ := eq_ofValid_of_new hnew
  rfl

/-- Three payloads, the second one too short for any rule. -/
def noisyPayloads : List Bytes := [mixedPayload, [0xAB], mixedPayload]

/-- The payloads in all formats, with line ends of both kinds, and four other lines: an echo of a log, an odd
number of digits, a blank line, and one at the end without a line end. -/
def noisyText : List Char :=
  "12:00 INFO".toList ++ (LineEnd.returnFeed.chars ++
    (LineFormat.doublePipe.body (Hex.lowerDigits mixedPayload) ++ (LineEnd.returnFeed.chars ++
      ("telegram=|ABC|".toList ++ (LineEnd.feed.chars ++
        (LineFormat.bare.body ['a', 'B'] ++ (LineEnd.feed.chars ++
          ([] ++ (LineEnd.feed.chars ++
            (LineFormat.pipe.body (Hex.digits mixedPayload) ++ (LineEnd.feed.chars ++
              "telegram".toList)))))))))))

/-- A record with this payload in hexadecimal. -/
def bareRecord (rawHex : String) : Session.Record :=
  { timestamp := none, deviceName := some "a\"b", deviceAddress := none, characteristic := none
    dataLength := none, rawHex, rawText := none }

/-- Records of the payloads. -/
def plainRecords : List Session.Record :=
  [bareRecord (Hex.encode mixedPayload), bareRecord "Ab", bareRecord (Hex.encode mixedPayload)]

theorem transcribes_noisyText : Transcribes noisyText noisyPayloads := by
  have hlower := Hex.spells_lowerDigits mixedPayload
  have hupper := Hex.spells_digits mixedPayload
  refine .other .returnFeed (by decide) (by decide) (.payload .doublePipe .returnFeed hlower ?_)
  refine .other .feed (by decide) (by decide) (.payload .bare .feed (by decide) ?_)
  refine .other .feed (by decide) (by decide) (.payload .pipe .feed hupper ?_)
  exact .unended (by decide) (by decide)

theorem carry_plainRecords : Session.Carry plainRecords noisyPayloads := by
  have hencode : Hex.Spells (bareRecord (Hex.encode mixedPayload)).rawHex.toList mixedPayload := by
    rw [bareRecord, Hex.encode, String.toList_ofList]
    exact Hex.spells_digits mixedPayload
  have hbyte : Hex.Spells (bareRecord "Ab").rawHex.toList [0xAB] := by decide
  exact .cons hencode (.cons hbyte (.cons hencode .nil))

/-- The records in both forms of a log. The second payload ends the run, so that two of the other lines are
not read. -/
theorem replay_repeats_noisyText :
    ∃ r, new .oneRow = .ok r ∧ (∀ p ∈ noisyPayloads, p ≠ []) ∧ Transcribes noisyText noisyPayloads ∧
      Session.Carry plainRecords noisyPayloads ∧
      ∀ log ∈ [Session.lineLog plainRecords, Session.documentLog [] plainRecords [Session.furtherField]],
        Session.IsLog log plainRecords ∧
          Run.Repeats
            ((r.linesRead (.runText (LineWriter.new .bare none) "-" (Text.utf8 noisyText))).countP (·.isSkipped))
            (r.runText (LineWriter.new .bare none) "-" (Text.utf8 noisyText))
            (r.runSession (LineWriter.new .bare none) log) := by
  have hnew := new_eq_ok (c := .oneRow) (by decide)
  have hpayloads : ∀ p ∈ noisyPayloads, p ≠ [] := by decide
  have hfurther : ∀ f ∈ [Session.furtherField], Session.IsFurther f :=
    List.forall_mem_singleton.2 Session.isFurther_furtherField
  refine ⟨_, hnew, hpayloads, transcribes_noisyText, carry_plainRecords, fun log hmem => ?_⟩
  have hlog : Session.IsLog log plainRecords := by
    rcases List.mem_pair.1 hmem with rfl | rfl
    · exact .lines (Session.isLineLog_lineLog _)
    · have hdocument := Session.isDocument_documentLog (List.forall_mem_nil _) plainRecords hfurther
      exact .document hdocument (Session.mapM_ofJson? _)
  exact ⟨hlog, replay_repeats hnew hpayloads transcribes_noisyText hlog carry_plainRecords _ _⟩

end Receiver

end MeterBridge
