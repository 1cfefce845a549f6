import MeterBridge.Proofs.Outcome
import MeterBridge.Receiver

/-!
# Receivers

What processing does to a receiver. Reports and warnings change neither its configuration nor its
statistics, so a notification adds the tally of its outcome and nothing else, and what becomes of
it depends on the configuration alone.

* `process_fst`, `process_config`, `process_stats` — processing, part by part.
* `process_settled` — what becomes of the candidates of a notification, whatever its rule.
-/

namespace MeterBridge

/-- A payload has an outcome if its length has a rule. -/
theorem Config.exists_outcome {c : Config} {payload : Bytes} {choice : Rule.Choice}
    (hchoice : c.rules.ruleFor payload.length = .ok choice) : ∃ o, c.outcome payload = .ok o := by
  obtain ⟨e, he⟩ : ∃ e, c.extract payload = .ok e := ⟨_, extract_eq_ok_iff.2 ⟨choice, hchoice, rfl⟩⟩
  exact ⟨⟨e, e.candidates.map c.judge⟩, outcome_eq_ok_iff.2 ⟨he, rfl⟩⟩

namespace Receiver

variable {r r' r'' : Receiver} {n : Notification} {o : Outcome}

/-! ### A new receiver -/

/-- The receiver for a valid configuration that has processed nothing. -/
def ofValid (c : Config) (hc : c.IsValid) : Receiver :=
  { config := c, isValid := hc, stats := .zero, throttles := .new throttleWindow throttleCap
    clock := 0, journal := #[] }

/-- There is a receiver for every valid configuration. -/
theorem new_eq_ok {c : Config} (hc : c.IsValid) : new c = .ok (ofValid c hc) := by
  rw [new]
  split
  · next fault hfault => rw [Config.IsValid, hfault] at hc; cases hc
  · rfl

/-- The receiver for the standard configuration that has processed nothing. -/
def standard : Receiver := ofValid .standard (by decide)

/-! ### Reports -/

/-- The receivers have the same configuration and statistics. -/
structure Agrees (r r' : Receiver) : Prop where
  /-- The configuration is the same. -/
  config : r'.config = r.config
  /-- The statistics are the same. -/
  stats : r'.stats = r.stats

theorem Agrees.refl (r : Receiver) : r.Agrees r := ⟨rfl, rfl⟩

theorem Agrees.trans (h : r.Agrees r') (h' : r'.Agrees r'') : r.Agrees r'' :=
  ⟨h'.config.trans h.config, h'.stats.trans h.stats⟩

theorem agrees_report (r : Receiver) (event : Event) : r.Agrees (r.report event) := ⟨rfl, rfl⟩

theorem agrees_warn (r : Receiver) (warning : Warning) (event : Event) :
    r.Agrees (r.warn warning event) := by
  simp only [warn]
  split <;> exact ⟨rfl, rfl⟩

theorem agrees_reportVerdict (source : String) (r : Receiver) (verdict : Except Rejection Telegram) :
    r.Agrees (reportVerdict source r verdict) := by
  cases verdict with
  | ok telegram => exact agrees_report _ _
  | error rejection => exact agrees_warn _ _ _

theorem agrees_reportRemark (r : Receiver) (remark : Option Extraction.Remark) :
    r.Agrees (r.reportRemark remark) := by
  cases remark with
  | none => exact .refl r
  | some remark => exact agrees_report _ _

theorem agrees_reportFallback (r : Receiver) (source : String) (e : Extraction) :
    r.Agrees (r.reportFallback source e) := by
  rw [reportFallback]
  split
  · exact agrees_warn _ _ _
  · exact .refl r

theorem agrees_reportVerdicts (source : String) (r : Receiver)
    (verdicts : List (Except Rejection Telegram)) :
    r.Agrees (verdicts.foldl (reportVerdict source) r) := by
  induction verdicts generalizing r with
  | nil => exact .refl r
  | cons verdict rest ih => exact (agrees_reportVerdict source r verdict).trans (ih _)

/-! ### Processing -/

/-- Settling an outcome counts it, and the rest is reports. -/
theorem agrees_settle (r : Receiver) (source : String) (o : Outcome) :
    (r.count (.ofOutcome o)).Agrees (r.settle source o) :=
  ((agrees_reportRemark _ _).trans (agrees_reportFallback _ _ _)).trans (agrees_reportVerdicts _ _ _)

/-- What becomes of a notification is decided by the configuration and the payload. -/
theorem process_fst (r : Receiver) (n : Notification) :
    (r.process n).1 = r.config.outcome n.payload := by
  simp only [process]
  split
  · next o h => exact h.symm
  · next e h => exact h.symm

theorem process_config (r : Receiver) (n : Notification) : (r.process n).2.config = r.config := by
  simp only [process]
  split
  · exact (agrees_settle _ _ _).config
  · rfl

/-- A notification with an outcome adds its tally. -/
theorem process_stats (h : (r.process n).1 = .ok o) :
    (r.process n).2.stats = r.stats + .ofOutcome o := by
  rw [process_fst] at h
  have hreport : (r.report (.received n.source n.payload)).config = r.config := rfl
  simp only [process, hreport, h]
  exact (agrees_settle _ _ _).stats

/-- A notification without a rule leaves the statistics as they are. -/
theorem process_stats_of_error {e : Error} (h : (r.process n).1 = .error e) :
    (r.process n).2.stats = r.stats := by
  rw [process_fst] at h
  have hreport : (r.report (.received n.source n.payload)).config = r.config := rfl
  simp only [process, hreport, h]
  rfl

/-- **Conservation**: when a receiver has processed a notification, every candidate has become a
telegram or a rejection, once and in order and for the right reason. -/
theorem process_settled (h : (r.process n).1 = .ok o) : o.IsSettled r.config n.payload :=
  r.config.isSettled_of_outcome r.isValid (r.process_fst n ▸ h)

/-- A notification of two compact telegrams, the second one of another meter, and half a third. -/
def mixedPayload : Bytes :=
  Envelope.wrap <|
    [0x25, 0x44, 0x2D, 0x2C] ++ Meter.standard.wire ++ List.replicate 28 0x25 ++
    ([0x25, 0x44, 0x2D, 0x2C] ++ { Meter.standard with version := 0 }.wire ++ List.replicate 28 0) ++
    [0x25, 0x44, 0x2D, 0x2C] ++ Meter.standard.wire

theorem process_settled_mixed :
    ∃ o, (standard.process (.arriving mixedPayload "-")).1 = .ok o ∧
      o.IsSettled .standard mixedPayload := by
  obtain ⟨o, ho⟩ := Config.exists_outcome
    (show Config.standard.rules.ruleFor mixedPayload.length = .ok ⟨.fallback, .multiFrameScan⟩ by decide)
  have hprocess : (standard.process (.arriving mixedPayload "-")).1 = .ok o :=
    (process_fst _ _).trans ho
  exact ⟨o, hprocess, process_settled hprocess⟩

end Receiver

end MeterBridge
