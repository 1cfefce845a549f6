import MeterBridge.Proofs.Feed
import MeterBridge.Proofs.History

/-!
# Writers with a limit

A line writer whose room is limited writes what fits and takes no telegram after that. Every line ends at
its only line feed, so the telegrams taken are the line feeds written (`LineWriter.takeAll_of_room`). What
a run into such a writer leaves is said beside the same run without a limit (`IsCutOff`): the writer has
the beginning of the output, and the statistics are those of the input up to the item with the line that
does not fit.
-/

namespace MeterBridge

namespace LineFormat

theorem not_mem_body (format : LineFormat) (bs : Bytes) : '\n' ∉ format.body (Hex.digits bs) :=
  fun h => absurd (format.isPlain_of_mem_body (Hex.isHex_of_mem_digits bs) _ h) (by decide)

/-- Lines are ASCII text. -/
theorem toNat_lt_of_mem_line (format : LineFormat) (t : Telegram) :
    ∀ c ∈ (format.line t).toList, c.toNat < 128 := by
  have hdigits : ∀ c ∈ Hex.digits t.bytes, c.toNat < 128 := Hex.forall_mem_digits (by decide) t.bytes
  have hfield : ∀ c ∈ Line.fieldMark, c.toNat < 128 := by
    have hall : Line.fieldMark.all (fun c => c.toNat < 128) = true := by decide
    simpa using hall
  rw [toList_line]
  refine List.forall_mem_append.2 ⟨format.forall_mem_body hdigits hfield (by decide), ?_⟩
  exact List.forall_mem_singleton.2 (by decide)

end LineFormat

namespace LineWriter

/-- What has been written, in bytes. -/
def bytes (w : LineWriter) : Bytes := w.output.toUTF8.data.toList

variable {format : LineFormat}

/-- The lines of telegrams in bytes. -/
def textBytes (format : LineFormat) (ts : List Telegram) : Bytes := Text.utf8 (text format ts)

theorem text_cons (format : LineFormat) (t : Telegram) (ts : List Telegram) :
    text format (t :: ts) = (format.line t).toList ++ text format ts := by
  rw [text, List.flatMap_cons, text]

theorem text_append (format : LineFormat) (ts us : List Telegram) :
    text format (ts ++ us) = text format ts ++ text format us := by
  rw [text, List.flatMap_append, text, text]

theorem textBytes_eq_map (format : LineFormat) (ts : List Telegram) :
    textBytes format ts = (text format ts).map fun c => UInt8.ofNat c.toNat := by
  refine Text.utf8_eq_map fun c hc => ?_
  obtain ⟨t, -, hc⟩ := List.mem_flatMap.1 hc
  exact format.toNat_lt_of_mem_line t c hc

/-- Each line has one line feed. -/
theorem count_text (format : LineFormat) (ts : List Telegram) :
    (text format ts).count '\n' = ts.length := by
  induction ts with
  | nil => rfl
  | cons t ts ih =>
    have hbody := List.count_eq_zero_of_not_mem (format.not_mem_body t.bytes)
    rw [text_cons, LineFormat.toList_line, List.count_append, List.count_append, hbody, ih,
      List.count_singleton_self, List.length_cons]
    omega

/-- A piece of the lines that lacks their end lacks a line feed. -/
theorem count_take_text_lt {n : Nat} {ts : List Telegram} (h : n < (text format ts).length) :
    ((text format ts).take n).count '\n' < ts.length := by
  rcases List.eq_nil_or_concat' ts with rfl | ⟨us, t, rfl⟩
  · exact absurd h (Nat.not_lt_zero n)
  · have htext : text format (us ++ [t]) =
        text format us ++ format.body (Hex.digits t.bytes) ++ ['\n'] := by
      rw [text_append, text_cons, LineFormat.toList_line]
      simp [text]
    have hcount := count_text format (us ++ [t])
    rw [htext, List.length_append, List.length_singleton] at h
    rw [htext, List.count_append, List.count_singleton_self] at hcount
    rw [htext, List.take_append_of_le_length (Nat.le_of_lt_succ h), ← hcount]
    exact Nat.lt_succ_of_le ((List.take_sublist n _).count_le '\n')

/-- A line feed of the lines is one of their bytes. -/
theorem count_map_take_text (format : LineFormat) (n : Nat) (ts : List Telegram) :
    ((textBytes format ts).take n).count 10 = ((text format ts).take n).count '\n' := by
  rw [textBytes_eq_map, ← List.map_take, List.count, List.countP_map, List.count]
  refine List.countP_congr fun c hc => ?_
  obtain ⟨t, -, hc⟩ := List.mem_flatMap.1 (List.mem_of_mem_take hc)
  have hlt := format.toNat_lt_of_mem_line t c hc
  simp only [Function.comp, beq_iff_eq]
  constructor
  · intro h
    have hbyte := congrArg UInt8.toNat h
    rw [UInt8.toNat_ofNat_of_lt' (Nat.lt_trans hlt (by decide))] at hbyte
    exact Char.toNat_inj.1 hbyte
  · rintro rfl
    rfl

theorem textBytes_append (format : LineFormat) (ts us : List Telegram) :
    textBytes format (ts ++ us) = textBytes format ts ++ textBytes format us := by
  rw [textBytes, text_append, Text.utf8_append, textBytes, textBytes]

theorem count_textBytes (format : LineFormat) (ts : List Telegram) :
    (textBytes format ts).count 10 = ts.length := by
  have hall := count_map_take_text format (text format ts).length ts
  rw [List.take_length, count_text, List.take_of_length_le] at hall
  · exact hall
  · rw [textBytes_eq_map, List.length_map]

theorem count_take_textBytes_lt {n : Nat} {ts : List Telegram}
    (h : n < (textBytes format ts).length) : ((textBytes format ts).take n).count 10 < ts.length := by
  rw [textBytes_eq_map, List.length_map] at h
  rw [count_map_take_text]
  exact count_take_text_lt h

/-! ### A writer with a limit -/

section Room

variable {w : LineWriter} {room : Nat} (hroom : w.room = some room)

include hroom

/-- A line that fits is written, and the telegram is taken. -/
theorem take_of_le {t : Telegram} (h : (w.format.line t).toList.length ≤ room) :
    Sink.take w t =
      ({ w with
          room := some (room - (w.format.line t).toList.length)
          output := w.output ++ w.format.line t
          written := w.written + 1 }, true) := by
  change LineWriter.take w t = _
  rw [take, hroom]
  exact if_pos h

/-- A line that does not fit is written as far as it does. -/
theorem take_of_lt {t : Telegram} (h : room < (w.format.line t).toList.length) :
    Sink.take w t =
      ({ w with
          room := some 0
          output := w.output ++ String.ofList ((w.format.line t).toList.take room) }, false) := by
  change LineWriter.take w t = _
  rw [take, hroom]
  exact if_neg (Nat.not_le.2 h)

/-- A writer with a limit writes what fits, and takes the telegrams whose lines it writes whole. -/
theorem takeAll_of_room (ts : List Telegram) :
    (Sink.takeAll w ts).1.output = w.output ++ String.ofList ((text w.format ts).take room) ∧
      (Sink.takeAll w ts).1.written = w.written + ((text w.format ts).take room).count '\n' ∧
        (Sink.takeAll w ts).2 = decide ((text w.format ts).length ≤ room) := by
  induction ts generalizing w room with
  | nil => simp [Sink.takeAll, text]
  | cons t ts ih =>
    rw [text_cons, Sink.takeAll]
    rcases Nat.lt_or_ge room (w.format.line t).toList.length with h | h
    · have hshort : room < (text w.format [t]).length := by simpa [text] using h
      have hnone := count_take_text_lt hshort
      rw [take_of_lt hroom h, List.take_append_of_le_length (Nat.le_of_lt h)]
      refine ⟨rfl, ?_, ?_⟩
      · simpa [text] using hnone
      · refine (decide_eq_false ?_).symm
        rw [List.length_append]
        omega
    · have hcount : (w.format.line t).toList.count '\n' = 1 := by
        have hone := count_text w.format [t]
        rwa [text, List.flatMap_singleton] at hone
      have htake := take_of_le hroom h
      obtain ⟨houtput, hwritten, htaken⟩ := ih (show (Sink.take w t).1.room = _ by rw [htake])
      rw [htake] at houtput hwritten htaken ⊢
      dsimp only at houtput hwritten htaken
      rw [List.take_append, List.take_of_length_le h]
      refine ⟨?_, ?_, ?_⟩
      · simp [houtput, String.append_assoc]
      · simp [hwritten, hcount, Nat.add_assoc]
      · rw [htaken, List.length_append, decide_eq_decide]
        omega

end Room

/-- In bytes: of a new writer that takes `n` bytes. -/
theorem takeAll_new (format : LineFormat) (n : Nat) (ts : List Telegram) :
    (Sink.takeAll (new format (some n)) ts).1.bytes = (textBytes format ts).take n ∧
      (Sink.takeAll (new format (some n)) ts).1.written = ((textBytes format ts).take n).count 10 ∧
        (Sink.takeAll (new format (some n)) ts).2 = decide ((textBytes format ts).length ≤ n) := by
  obtain ⟨houtput, hwritten, htaken⟩ :=
    takeAll_of_room (show (new format (some n)).room = some n from rfl) ts
  have hformat : (new format (some n)).format = format := rfl
  rw [hformat] at houtput hwritten htaken
  refine ⟨?_, ?_, ?_⟩
  · rw [bytes, houtput, Text.toList_toUTF8, new, String.empty_append, String.toList_ofList,
      textBytes_eq_map, ← List.map_take, ← Text.utf8_eq_map]
    intro c hc
    obtain ⟨t, -, hc⟩ := List.mem_flatMap.1 (List.mem_of_mem_take hc)
    exact format.toNat_lt_of_mem_line t c hc
  · rw [hwritten, count_map_take_text]
    exact Nat.zero_add _
  · rw [htaken, textBytes_eq_map, List.length_map]

/-- Of a writer without a limit. -/
theorem bytes_given (format : LineFormat) (ts : List Telegram) :
    (Sink.given (new format none) ts).bytes = textBytes format ts := by
  have htake := (isReliable (show (new format none).room = none from rfl)).takeAll_eq ts
  have hunlimited : Sink.takeAll (new format none) ts = (unlimited format ts, true) :=
    takeAll_unlimited format [] ts
  have hgiven : Sink.given (new format none) ts = unlimited format ts :=
    congrArg Prod.fst (htake.symm.trans hunlimited)
  rw [hgiven, bytes, Text.toList_toUTF8]
  exact congrArg Text.utf8 String.toList_ofList

end LineWriter

namespace Receiver.Run

/-! ### Runs into a writer with a limit -/

/-- The end of a run leaves what has been written, and at most reports. -/
theorem finish_lineWriter (run : Run LineWriter) : run.finish.sink = run.sink ∧
    run.finish.failure = run.failure ∧ run.finish.receiver.stats = run.receiver.stats := by
  rw [finish]
  cases h : run.failure with
  | some e => exact ⟨rfl, h, rfl⟩
  | none => exact ⟨rfl, rfl, rfl⟩

variable {α β : Type} {effect : α → Effect} {items : List β → List α} {r : Receiver}
  {format : LineFormat} {n : Nat} {input : List β}

/-- What runs over inputs into a writer without a limit and into a writer of `n` bytes have to do with each
other, on one input. -/
structure IsCutOff (items : List β → List α) (unlimited limited : List β → Run LineWriter)
    (r : Receiver) (n : Nat) (input : List β) : Prop where
  /-- The writer has the first `n` bytes of the output. -/
  bytes_eq : (limited input).sink.bytes =
    (unlimited input).sink.bytes.take (min n (unlimited input).sink.bytes.length)
  /-- The run fails if the output is longer. -/
  error_iff : (limited input).result = .error .writerFull ↔ n < (unlimited input).sink.bytes.length
  /-- It fails for no other reason. -/
  ok_iff : (limited input).result = .ok (limited input).receiver.stats ↔
    (unlimited input).sink.bytes.length ≤ n
  /-- The telegrams taken are the line feeds written. -/
  written_eq : (limited input).sink.written = (limited input).sink.bytes.count 10
  /-- If the output fits, then the statistics are those of the run without a limit, and all telegrams are
  taken. -/
  fits : (unlimited input).sink.bytes.length ≤ n →
    (limited input).receiver.stats = (unlimited input).receiver.stats ∧
      (limited input).receiver.stats.telegrams = r.stats.telegrams + (limited input).sink.written
  /-- Otherwise they are those of a run without a limit over the input up to the item with the line that
  does not fit, and some of its telegrams are not taken. -/
  overflows : n < (unlimited input).sink.bytes.length →
    (∃ front before x, front <+: input ∧ before <+: front ∧ items front = items before ++ [x] ∧
      (unlimited before).sink.bytes.length ≤ n ∧ n < (unlimited front).sink.bytes.length ∧
        (unlimited front).result = .ok (limited input).receiver.stats) ∧
    r.stats.telegrams + (limited input).sink.written < (limited input).receiver.stats.telegrams

section CutOff

variable {unlimited limited : List β → Run LineWriter}
  (hover : ∀ input, IsOver effect r (.new format none) (items input) (unlimited input))

include hover

/-- Without a limit all telegrams are written. -/
theorem bytes_of_isOver (input : List β) (hinput : Effect.firstFailure? effect (items input) = none) :
    (unlimited input).sink.bytes =
      LineWriter.textBytes format (Effect.allTelegrams effect (items input)) := by
  have hgave := (hover input).gave
  rw [HasGiven, (hover input).failure, hinput, Effect.before_eq_self hinput] at hgave
  rw [hgave]
  exact LineWriter.bytes_given format _

/-- An output that does not fit is broken off inside the telegrams of one item. -/
theorem overflows_of_fed (hcounts : Effect.CountsTelegrams effect)
    (hfed : Fed effect { receiver := r, sink := .new format (some n), failure := none } (items input)
      (limited input))
    (hparts : ∀ {input pre post}, items input = pre ++ post → ∃ front, front <+: input ∧ items front = pre)
    (hinput : Effect.firstFailure? effect (items input) = none)
    (hlt : n < (unlimited input).sink.bytes.length) :
    (∃ front before x, front <+: input ∧ before <+: front ∧ items front = items before ++ [x] ∧
      (unlimited before).sink.bytes.length ≤ n ∧ n < (unlimited front).sink.bytes.length ∧
        (unlimited front).result = .ok (limited input).receiver.stats) ∧
    r.stats.telegrams + (limited input).sink.written < (limited input).receiver.stats.telegrams := by
  have htaken := (LineWriter.takeAll_new format n (Effect.allTelegrams effect (items input))).2.2
  rw [← bytes_of_isOver hover input hinput] at htaken
  have hsink := hfed.sink
  obtain ⟨pre, x, post, hitems, hpre, hx, hstats⟩ :=
    hfed.stats_of_refused (htaken.trans (decide_eq_false (Nat.not_le.2 hlt)))
  have hsplit : items input = (pre ++ [x]) ++ post := by rw [hitems, List.append_assoc]; rfl
  obtain ⟨front, hfront, hfrontItems⟩ := hparts hsplit
  obtain ⟨before, hbefore, hbeforeItems⟩ := hparts hfrontItems
  -- No item in front of the one with the line that does not fit ends a run.
  rw [hsplit, Effect.firstFailure?_append, Option.or_eq_none_iff] at hinput
  have hfrontNone : Effect.firstFailure? effect (items front) = none := by
    rw [hfrontItems, hinput.1]
  have hbeforeNone : Effect.firstFailure? effect (items before) = none := by
    rw [hbeforeItems]
    rw [Effect.firstFailure?_append, Option.or_eq_none_iff] at hinput
    exact hinput.1.1
  have hfits := (LineWriter.takeAll_new format n (Effect.allTelegrams effect pre)).2.2
  have hexceeds := (LineWriter.takeAll_new format n (Effect.allTelegrams effect (pre ++ [x]))).2.2
  rw [hpre, eq_comm, decide_eq_true_iff] at hfits
  rw [hx, eq_comm, decide_eq_false_iff_not, Nat.not_le] at hexceeds
  refine ⟨⟨front, before, x, hfront, hbefore, ?_, ?_, ?_, ?_⟩, ?_⟩
  · rw [hfrontItems, hbeforeItems]
  · rwa [bytes_of_isOver hover before hbeforeNone, hbeforeItems]
  · rwa [bytes_of_isOver hover front hfrontNone, hfrontItems]
  · rw [(hover front).result_eq_ok hfrontNone, hfrontItems, hstats]
  · have hcut := LineWriter.count_take_textBytes_lt hexceeds
    rw [hstats, Stats.add_eq, hcounts.telegrams_tallies, hsink,
      (LineWriter.takeAll_new format n _).2.1, hsplit, Effect.allTelegrams_append,
      LineWriter.textBytes_append, List.take_append_of_le_length (Nat.le_of_lt hexceeds)]
    exact Nat.add_lt_add_left hcut _

theorem isCutOff_of_fed (hcounts : Effect.CountsTelegrams effect)
    (hfed : Fed effect { receiver := r, sink := .new format (some n), failure := none } (items input)
      (limited input))
    (hparts : ∀ {input pre post}, items input = pre ++ post → ∃ front, front <+: input ∧ items front = pre)
    (hinput : Effect.firstFailure? effect (items input) = none) :
    IsCutOff items unlimited limited r n input := by
  obtain ⟨hbytes, hwritten, htaken⟩ :=
    LineWriter.takeAll_new format n (Effect.allTelegrams effect (items input))
  rw [← bytes_of_isOver hover input hinput] at hbytes hwritten htaken
  have hsink := hfed.sink
  have hlimited : (limited input).sink.bytes = (unlimited input).sink.bytes.take n := by
    rw [hsink, hbytes]
  have hresult : (limited input).result =
      if (unlimited input).sink.bytes.length ≤ n then .ok (limited input).receiver.stats
      else .error .writerFull := by
    rw [result, hfed.failure, htaken]
    by_cases hle : (unlimited input).sink.bytes.length ≤ n <;> simp [hle]
  refine ⟨?_, ?_, ?_, ?_, fun hle => ?_, fun hlt => ?_⟩
  · rw [hlimited]
    exact List.take_eq_take_min
  · rw [hresult]
    split <;> simp <;> omega
  · rw [hresult]
    split <;> simp <;> omega
  · rw [hlimited, hsink, hwritten]
  · -- All telegrams are taken, and each of them is a line.
    have hstats := hfed.stats_of_taken (htaken.trans (decide_eq_true hle))
    refine ⟨?_, ?_⟩
    · rw [hstats, (hover input).stats, Effect.before_eq_self hinput]
    · rw [hstats, Stats.add_eq, hcounts.telegrams_tallies, hsink, hwritten,
        List.take_of_length_le hle, bytes_of_isOver hover input hinput, LineWriter.count_textBytes]
  · exact overflows_of_fed hover hcounts hfed hparts hinput hlt

end CutOff

/-- A line writer keeps what it has been given when a run comes to its end. -/
theorem Fed.finish {start run : Run LineWriter} {items : List α} (h : Fed effect start items run) :
    Fed effect start items run.finish := by
  obtain ⟨hsink, hfailure, hstats⟩ := finish_lineWriter run
  refine ⟨hsink.trans h.sink, hfailure.trans h.failure, ?_, ?_⟩
  · intro htaken
    rw [hstats, h.stats_of_taken htaken]
  · intro hrefused
    rw [CountsUpTo, hstats]
    exact h.stats_of_refused hrefused

end Receiver.Run

namespace Receiver

/-- **Cut off**: if a run writes its output to a writer without a limit and succeeds, then the same run
into a writer of `n` bytes writes the first `n` bytes of that output, fails if there are more, and counts
the input up to the notification with the line that does not fit. -/
theorem run_isCutOff (r : Receiver) (format : LineFormat) (n : Nat) :
    (∀ ns s, (r.run (LineWriter.new format none) ns).result = .ok s →
      Run.IsCutOff id (r.run (LineWriter.new format none)) (r.run (LineWriter.new format (some n)))
        r n ns) ∧
    ∀ source text s, (r.runText (LineWriter.new format none) source text).result = .ok s →
      Run.IsCutOff Text.utf8Lines (r.runText (LineWriter.new format none) source)
        (r.runText (LineWriter.new format (some n)) source) r n text := by
  have hsink := LineWriter.isReliable (show (LineWriter.new format none).room = none from rfl)
  constructor
  · intro ns s hs
    have hover := r.isOver_run hsink
    have hnone := (hover ns).firstFailure?_eq_none hs
    exact Run.isCutOff_of_fed hover (fun _ => r.config.telegrams_tally_effect _)
      ((Run.feeds_take r.config).foldl rfl rfl hnone).finish (fun h => ⟨_, ⟨_, h.symm⟩, rfl⟩) hnone
  · intro source text s hs
    have hover := r.isOver_runText hsink source
    have hnone := (hover text).firstFailure?_eq_none hs
    exact Run.isCutOff_of_fed hover r.config.countsTelegrams_lineEffect
      ((Run.feeds_takeLine r.config source).foldl rfl rfl hnone).finish Text.exists_prefix_utf8Lines
      hnone

/-- Two compact telegrams in one notification. -/
def twinPayload : Bytes :=
  Envelope.wrap <|
    [0x25, 0x44, 0x2D, 0x2C] ++ Meter.standard.wire ++ List.replicate 28 0x25 ++
    ([0x25, 0x44, 0x2D, 0x2C] ++ Meter.standard.wire ++ List.replicate 28 0)

/-- Two notifications with three telegrams together; a line has 88 bytes. -/
def twinNotifications : List Notification := [.arriving twinPayload "-", .arriving mixedPayload "-"]

theorem run_isCutOff_twin :
    ∃ s, (standard.run (LineWriter.new .pipe none) twinNotifications).result = .ok s ∧
      Run.IsCutOff id (standard.run (LineWriter.new .pipe none))
        (standard.run (LineWriter.new .pipe (some 100))) standard 100 twinNotifications ∧
      (standard.run (LineWriter.new .pipe (some 100)) twinNotifications).result =
        .error .writerFull ∧
      (standard.run (LineWriter.new .pipe (some 100)) twinNotifications).sink.written = 1 := by
  have hsink := LineWriter.isReliable (show (LineWriter.new .pipe none).room = none from rfl)
  have hs := (standard.isOver_run hsink twinNotifications).result_eq_ok (by decide +kernel)
  have hcut := (run_isCutOff standard .pipe 100).1 twinNotifications _ hs
  refine ⟨_, hs, hcut, hcut.error_iff.2 (by decide +kernel), ?_⟩
  rw [hcut.written_eq]
  decide +kernel

end Receiver

end MeterBridge