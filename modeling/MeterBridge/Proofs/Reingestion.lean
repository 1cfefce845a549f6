import MeterBridge.Proofs.Line
import MeterBridge.Proofs.Lines
import MeterBridge.Proofs.Run
import MeterBridge.Proofs.Tally

/-!
# Reading back what was written

The output of a run is itself an input. Under a configuration whose anchors begin with the count of
their windows, a telegram has the length of its anchor's window; if this length selects a scan, and the
first byte opens no envelope, then the telegram is cut out of its own line as a whole and accepted again.
So a run over the output of a run writes the output again, whatever the first run had read and by
whichever rules it had cut its telegrams.

* `IsReingestible` — what is asked of a configuration; `isReingestible_standardFor` says that the
  standard anchors and rules fulfil it with every meter.
* `outcome_of_isTelegram` — a telegram as a notification yields itself and nothing else.
* `reingest_fixed` — the output of a run is a fixed point.
-/

namespace MeterBridge

open Anchor (Sighting)

/-! ### A telegram as a notification -/

/-- Telegrams can be told from their own bytes alone. -/
structure Config.IsReingestible (c : Config) : Prop where
  /-- The first byte of an anchor is the number of bytes behind it in the window. -/
  counted : ∀ a ∈ c.anchors, a.pattern.head?.map (fun b => b.toNat + 1) = some a.window.toNat
  /-- No anchor begins like the opening delimiter of an envelope. -/
  unopened : ∀ a ∈ c.anchors, a.pattern.head? ≠ some 0xFB
  /-- The length of each window selects a scan. -/
  scanned : ∀ a ∈ c.anchors, ∃ choice, c.rules.ruleFor a.window.toNat = .ok choice ∧
    choice.rule = .multiFrameScan

namespace Config

/-- The standard anchors and rules with another meter and another least length. -/
def standardFor (m : Meter) (least : UInt64) : Config :=
  { standard with meter := m, leastTelegram := least }

/-- They are valid if the serial number has at most eight digits and the least length is not zero. -/
theorem isValid_standardFor {m : Meter} {least : UInt64} (hm : m.serial.toNat ≤ Meter.greatestSerial)
    (hleast : 0 < least) : (standardFor m least).IsValid := by
  have hstandard : standard.IsValid := by decide
  exact isValid_iff.2 ⟨(isValid_iff.1 hstandard).1, hm, UInt64.lt_iff_toNat_lt.1 hleast, hstandard.rules⟩

/-- They are always reingestible. -/
theorem isReingestible_standardFor (m : Meter) (least : UInt64) :
    (standardFor m least).IsReingestible := by
  refine ⟨?_, ?_, ?_⟩
  all_goals
    simp only [standardFor, standard, List.forall_mem_cons, List.not_mem_nil, false_implies,
      implies_true, and_true]
  · decide
  · decide
  · exact ⟨⟨⟨.fallback, .multiFrameScan⟩, by decide, rfl⟩, ⟨.fallback, .multiFrameScan⟩, by decide, rfl⟩

variable {c : Config} {bytes : Bytes}

section Addressed

variable {s : Sighting} (h : c.IsReingestible) (hs : c.AddressedBy bytes s)

include hs

/-- Bytes that begin with an anchor begin with its first byte. -/
theorem AddressedBy.head?_eq : bytes.head? = s.anchor.pattern.head? := by
  obtain ⟨b, rest, hpattern⟩ := List.exists_cons_of_ne_nil hs.occurs.1
  obtain ⟨tail, rfl⟩ := hs.followed
  rw [hpattern]
  rfl

include h

/-- A telegram is not taken for an envelope. -/
theorem AddressedBy.strip_eq :
    Envelope.strip bytes = { payload := bytes, core := bytes, wrapped := false } := by
  refine Envelope.strip_of_not_isWrapped (Envelope.isWrapped_eq_false ?_)
  rw [hs.head?_eq]
  exact h.unopened s.anchor hs.mem

variable (hcount : CountsItself bytes)

include hcount

/-- A telegram has the length of the window of its anchor. -/
theorem AddressedBy.length_eq : bytes.length = s.anchor.window.toNat := by
  have hwindow := h.counted s.anchor hs.mem
  rw [← hs.head?_eq] at hwindow
  cases bytes with
  | nil => cases hcount
  | cons b rest =>
    rw [List.length_cons, ← countsItself_cons.1 hcount]
    exact Option.some.inj hwindow

/-- So the window of its anchor is the telegram. -/
theorem AddressedBy.windowEnd_eq : s.windowEnd = bytes.length := by
  have hshort : bytes.length < Anchor.greatestPosition :=
    Nat.lt_of_le_of_lt hcount.length_le (by decide)
  rw [Sighting.windowEnd, hs.offset_eq, ← hs.length_eq h hcount, Nat.zero_add]
  exact Nat.min_eq_left (Nat.le_of_lt hshort)

/-- A scan of a telegram cuts it as a whole. -/
theorem AddressedBy.scanned : Extraction.Scanned c.anchors bytes 0 [s] none := by
  have hend := hs.windowEnd_eq h hcount
  have hfirst : s.IsFirstFrom c.anchors bytes 0 :=
    ⟨hs.toIsFirstListed, Nat.zero_le _, fun _ _ i _ _ => hs.offset_eq ▸ Nat.zero_le i⟩
  refine .cut hfirst (Nat.le_of_eq hend) ?_ (.exhausted fun a _ i hi hai => ?_)
  · rw [hend]
    exact hs.occurs.lt_length
  · rw [hend] at hi
    exact absurd hai.lt_length (Nat.not_lt.2 hi)

end Addressed

/-- **A telegram yields itself**: as a notification it has one candidate, which is accepted. -/
theorem outcome_of_isTelegram (hc : c.IsValid) (h : c.IsReingestible) (ht : c.IsTelegram bytes) :
    ∃ o t, c.outcome bytes = .ok o ∧ o.telegrams = [t] ∧ t.bytes = bytes ∧ o.rejections = [] ∧
      o.extraction.hasIncompleteTail = false := by
  obtain ⟨s, hs⟩ := ht.addressed
  obtain ⟨choice, hchoice, hrule⟩ := h.scanned s.anchor hs.mem
  rw [← hs.length_eq h ht.countsItself] at hchoice
  have hscanned := hs.scanned h ht.countsItself
  have hcut : (Extraction.cut choice (Envelope.strip bytes) s).bytes = bytes := by
    simp only [Extraction.cut, hs.strip_eq h, hs.offset_eq, hs.windowEnd_eq h ht.countsItself,
      Bytes.slice_self]
  have hextract : c.extract bytes = .ok (.ofScan choice bytes [s] none) :=
    extract_of_scanned hchoice hrule (by rwa [hs.strip_eq h])
  obtain ⟨kind, hjudge⟩ := judge_of_isTelegram hc (hcut.symm ▸ ht)
  have houtcome : c.outcome bytes = .ok
      { extraction := .ofScan choice bytes [s] none
        verdicts := [c.judge (Extraction.cut choice (Envelope.strip bytes) s)] } :=
    outcome_eq_ok_iff.2 ⟨hextract, rfl⟩
  rw [hjudge] at houtcome
  exact ⟨_, _, houtcome, rfl, hcut, rfl, rfl⟩

end Config

/-! ### Statistics without a loss -/

namespace Stats

/-- So many notifications with one telegram each, and nothing rejected, cut short or skipped. -/
structure IsLossless (n : Nat) (s : Stats) : Prop where
  /-- The notifications. -/
  notifications : s.notifications = n
  /-- All of them have a telegram. -/
  productive : s.productive = n
  /-- None of them has two. -/
  telegrams : s.telegrams = n
  /-- No candidate is rejected. -/
  rejected : s.rejected = 0
  /-- No tail is incomplete. -/
  incompleteTail : s.incompleteTail = 0
  /-- Every line has a payload. -/
  skippedLines : s.skippedLines = 0

theorem isLossless_zero : IsLossless 0 .zero := ⟨rfl, rfl, rfl, rfl, rfl, rfl⟩

theorem IsLossless.add {m n : Nat} {a b : Stats} (ha : IsLossless m a) (hb : IsLossless n b) :
    IsLossless (m + n) (a + b) where
  notifications := congrArg₂ (· + ·) ha.notifications hb.notifications
  productive := congrArg₂ (· + ·) ha.productive hb.productive
  telegrams := congrArg₂ (· + ·) ha.telegrams hb.telegrams
  rejected := by rw [rejected_add, ha.rejected, hb.rejected]
  incompleteTail := congrArg₂ (· + ·) ha.incompleteTail hb.incompleteTail
  skippedLines := congrArg₂ (· + ·) ha.skippedLines hb.skippedLines

/-- The tally of one accepted candidate and nothing else. -/
theorem isLossless_ofOutcome {o : Outcome} {t : Telegram} (htelegrams : o.telegrams = [t])
    (hrejections : o.rejections = []) (htail : o.extraction.hasIncompleteTail = false) :
    IsLossless 1 (.ofOutcome o) := by
  rw [ofOutcome, htelegrams, hrejections, htail]
  exact ⟨rfl, rfl, rfl, rfl, rfl, rfl⟩

end Stats

/-! ### The second run -/

/-- The lines of an output carry its telegrams, one each. -/
theorem LineWriter.utf8Lines_text (format : LineFormat) (ts : List Telegram) :
    Text.utf8Lines (Text.utf8 (text format ts)) =
      ts.map fun t => some (String.ofList (format.body (Hex.digits t.bytes))) := by
  have hbreak : ∀ c, Text.isBlank c = true → ∀ t : Telegram, c ∉ format.body (Hex.digits t.bytes) := by
    intro c hblank t hmem
    have hplain := format.isPlain_of_mem_body (Hex.isHex_of_mem_digits t.bytes) c hmem
    simp [Line.isPlain, hblank] at hplain
  have htext : text format ts =
      (ts.map fun t => format.body (Hex.digits t.bytes)).flatMap (· ++ ['\n']) := by
    rw [text, List.flatMap_map]
    exact congrArg (ts.flatMap ·) (funext fun t => format.toList_line t)
  have hlines : Text.lines (text format ts) = ts.map fun t => format.body (Hex.digits t.bytes) := by
    rw [htext]
    refine Text.linesFrom_flatMap fun line hline => ?_
    obtain ⟨t, -, rfl⟩ := List.mem_map.1 hline
    exact ⟨hbreak _ (by decide) t, hbreak _ (by decide) t⟩
  rw [Text.utf8Lines_utf8, hlines, List.map_map]
  rfl

namespace Receiver

open Run

variable {c : Config} {format : LineFormat}

section Reread

variable (hc : c.IsValid) (h : c.IsReingestible) (source : String) {us : List Telegram} {s : Stats}
  {n : Nat} {run : Run LineWriter}

include hc h

/-- The line of a telegram gives one telegram of the same bytes. -/
theorem Run.IsLive.rereadLine {t : Telegram} (ht : c.IsTelegram t.bytes)
    (hrun : IsLive c format us s run) (hs : s.IsLossless n) :
    ∃ t' s', IsLive c format (us ++ [t']) s' (run.takeLine source
        (some (String.ofList (format.body (Hex.digits t.bytes))))) ∧
      t'.bytes = t.bytes ∧ s'.IsLossless (n + 1) := by
  obtain ⟨o, t', houtcome, htelegrams, hbytes, hrejections, htail⟩ :=
    Config.outcome_of_isTelegram hc h ht
  have hread := LineFormat.read_body format ht.countsItself.ne_nil
  have hnext := hrun.take (n := .arriving t.bytes source) houtcome
  rw [htelegrams] at hnext
  refine ⟨t', s + .ofOutcome o, ?_, hbytes,
    hs.add (Stats.isLossless_ofOutcome htelegrams hrejections htail)⟩
  rw [takeLine_of_payload hrun.failure hread]
  exact hnext

/-- A run over the lines of telegrams writes these lines and loses nothing. -/
theorem Run.IsLive.reread {ts : List Telegram} (hts : ∀ t ∈ ts, c.IsTelegram t.bytes)
    (hrun : IsLive c format us s run) (hs : s.IsLossless n) :
    ∃ us' s', IsLive c format us' s'
        ((ts.map fun t => some (String.ofList (format.body (Hex.digits t.bytes)))).foldl
          (Run.takeLine source) run) ∧
      LineWriter.text format us' = LineWriter.text format us ++ LineWriter.text format ts ∧
      s'.IsLossless (n + ts.length) := by
  induction ts generalizing us s n run with
  | nil => exact ⟨us, s, hrun, (List.append_nil _).symm, hs⟩
  | cons t ts ih =>
    obtain ⟨ht, hts⟩ := List.forall_mem_cons.1 hts
    obtain ⟨t', s₁, hnext, hbytes, hs₁⟩ := hrun.rereadLine hc h source ht hs
    obtain ⟨us', s', hlive, htext, hlossless⟩ := ih hts hnext hs₁
    -- The line of a telegram depends on its bytes alone.
    have hline : format.line t' = format.line t := by
      rw [LineFormat.line, LineFormat.line, Telegram.hex, Telegram.hex, hbytes]
    refine ⟨us', s', hlive, ?_, ?_⟩
    · rw [htext, LineWriter.text, List.flatMap_append, List.flatMap_singleton, hline,
        List.append_assoc]
      rfl
    · rw [List.length_cons, Nat.add_comm ts.length, ← Nat.add_assoc]
      exact hlossless

end Reread

/-- A run of the receiver over what was written writes it again, with one telegram from each line. -/
structure Reproduces (r : Receiver) (format : LineFormat) (source output : String) : Prop where
  /-- The run goes on to its end. -/
  succeeds : (r.runText (LineWriter.new format none) source output.toUTF8.data.toList).result =
    .ok (r.runText (LineWriter.new format none) source output.toUTF8.data.toList).receiver.stats
  /-- It writes the same. -/
  output_eq :
    (r.runText (LineWriter.new format none) source output.toUTF8.data.toList).sink.output = output
  /-- It loses nothing. -/
  lossless : (r.runText (LineWriter.new format none) source
    output.toUTF8.data.toList).receiver.stats.IsLossless
      (Text.utf8Lines output.toUTF8.data.toList).length

/-- A receiver that has processed nothing reproduces the lines of telegrams. -/
theorem reproduces_text (hc : c.IsValid) (h : c.IsReingestible) (source : String)
    {ts : List Telegram} (hts : ∀ t ∈ ts, c.IsTelegram t.bytes) :
    (ofValid c hc).Reproduces format source (String.ofList (LineWriter.text format ts)) := by
  obtain ⟨us, s, hlive, htext, hlossless⟩ :=
    (isLive_start (ofValid c hc) format).reread hc h source hts Stats.isLossless_zero
  have hlines := LineWriter.utf8Lines_text format ts
  have hbytes := Text.toList_toUTF8 (String.ofList (LineWriter.text format ts))
  rw [String.toList_ofList] at hbytes
  rw [← hlines, ← hbytes] at hlive
  have hend := hlive.finish
  refine ⟨?_, ?_, ?_⟩
  · rw [runText, Run.result, hend.failure]
  · rw [runText, hend.sink]
    exact congrArg String.ofList htext
  · rw [runText, hend.stats, hbytes, hlines, List.length_map, ← Nat.zero_add ts.length]
    exact hlossless

/-- Whatever a run has read and however it has ended, a new receiver reproduces its output. -/
theorem reproduces_runText (r : Receiver) (h : r.config.IsReingestible) (format : LineFormat)
    (source source' : String) (text : Bytes) :
    (ofValid r.config r.isValid).Reproduces format source'
      (r.runText (LineWriter.new format none) source text).sink.output := by
  obtain ⟨ts, hwrote⟩ := r.wrote_runText format source text
  rw [hwrote.sink]
  exact reproduces_text r.isValid h source' hwrote.genuine

/-- **Fixed point**: the standard anchors and rules are valid and reingestible with every meter of eight
digits and every least length but zero; and the output of a run under a reingestible configuration is
reproduced by a new receiver of the same configuration. -/
theorem reingest_fixed :
    (∀ (m : Meter) (least : UInt64), m.serial.toNat ≤ Meter.greatestSerial → 0 < least →
      (Config.standardFor m least).IsValid ∧ (Config.standardFor m least).IsReingestible) ∧
    ∀ r : Receiver, r.config.IsReingestible →
      ∀ (format : LineFormat) (source source' : String) (text : Bytes),
        ∃ r', new r.config = .ok r' ∧ r'.Reproduces format source'
          (r.runText (LineWriter.new format none) source text).sink.output := by
  constructor
  · intro m least hm hleast
    exact ⟨Config.isValid_standardFor hm hleast, Config.isReingestible_standardFor m least⟩
  · intro r h format source source' text
    exact ⟨_, new_eq_ok r.isValid, reproduces_runText r h format source source' text⟩

/-- A line with a telegram and more, an echo, and a byte that is no text. -/
def mixedText : Bytes :=
  Text.utf8 (LineFormat.pipe.body (Hex.digits mixedPayload) ++ ['\r', '\n', 'I', 'N', 'F', 'O', '\n'])
    ++ [0xFF]

theorem reingest_fixed_mixed :
    standard.config.IsReingestible ∧
      ∃ r', new standard.config = .ok r' ∧ r'.Reproduces .doublePipe "-"
        (standard.runText (LineWriter.new .doublePipe none) "-" mixedText).sink.output := by
  have h : standard.config.IsReingestible := (reingest_fixed.1 .standard 10 (by decide) (by decide)).2
  exact ⟨h, reingest_fixed.2 standard h .doublePipe "-" "-" mixedText⟩

end Receiver

end MeterBridge
