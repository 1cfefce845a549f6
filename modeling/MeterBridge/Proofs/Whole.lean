import MeterBridge.Proofs.Receiver
import MeterBridge.Proofs.Reingestion
import MeterBridge.Proofs.Rule

/-!
# Pieces that are taken as a whole

A rule for single frames takes the core and a rule that trims takes what trimming leaves. There is one
candidate then, or none, and the checks decide on all of it. Such a piece is passed over if it is not
due, that is, if a core is too short, or if it is not heard: without an envelope there must be an anchor
in it somewhere. A piece that the checks accept begins with an anchor, so what is passed over for want of
one would never have been accepted (`occurs_of_check`), and only rejections are saved.

* `IsVerdictOn` — what becomes of a payload if one piece of it is all that can be a telegram.
* `process_whole` — this holds under both rules. Standard telegrams have 38 or 49 bytes, so the standard
  rows for 59 and 70 bytes never yield one.
-/

namespace MeterBridge

open Anchor (Sighting)

variable {c : Config} {payload : Bytes} {o : Outcome} {choice : Rule.Choice}

/-! ### One piece -/

/-- All that can be a telegram is one piece that stands at this offset, if it is due. Only a piece that is
heard is reported when the checks refuse it. -/
structure Outcome.IsVerdictOn (c : Config) (piece : Bytes) (offset : Nat) (Due Heard : Prop)
    (o : Outcome) : Prop where
  /-- There is a telegram if and only if the piece is due and the checks accept it. -/
  accepted_iff : o.telegrams ≠ [] ↔ Due ∧ ∃ kind, c.check piece = .ok kind
  /-- A telegram is the only one, and it is the piece. -/
  accepted : ∀ t ∈ o.telegrams,
    o.telegrams = [t] ∧ t.bytes = piece ∧ t.offset = offset ∧ c.check piece = .ok t.kind
  /-- There is a rejection if and only if the piece is due and heard and the checks refuse it. -/
  rejected_iff : o.rejections ≠ [] ↔ Due ∧ Heard ∧ ∃ reason, c.check piece = .error reason
  /-- A rejection is the only one, and it is of the piece. -/
  rejected : ∀ x ∈ o.rejections, o.rejections = [x] ∧ x.candidate.bytes = piece ∧
    x.candidate.offset = offset ∧ c.check piece = .error x.reason

namespace Outcome

variable {d : Candidate} {Due Heard : Prop}

/-- A candidate that is judged as the only one has the verdict of the checks on its bytes. -/
theorem isVerdictOn_of_taken (hverdicts : o.verdicts = [c.judge d]) (hdue : Due) (hheard : Heard) :
    o.IsVerdictOn c d.bytes d.offset Due Heard := by
  cases hcheck : c.check d.bytes with
  | ok kind =>
    have hjudge : c.judge d =
        .ok { bytes := d.bytes, kind, choice := d.choice, offset := d.offset } := by
      rw [Config.judge, hcheck]
    have htelegrams : o.telegrams =
        [{ bytes := d.bytes, kind, choice := d.choice, offset := d.offset }] := by
      rw [telegrams, hverdicts, hjudge]
      rfl
    have hrejections : o.rejections = [] := by
      rw [rejections, hverdicts, hjudge]
      rfl
    refine ⟨?_, ?_, ?_, ?_⟩
    · simp [htelegrams, hcheck, hdue]
    · simp [htelegrams, hcheck]
    · simp [hrejections, hcheck]
    · simp [hrejections]
  | error reason =>
    have hjudge : c.judge d = .error { reason, candidate := d } := by rw [Config.judge, hcheck]
    have htelegrams : o.telegrams = [] := by
      rw [telegrams, hverdicts, hjudge]
      rfl
    have hrejections : o.rejections = [{ reason, candidate := d }] := by
      rw [rejections, hverdicts, hjudge]
      rfl
    refine ⟨?_, ?_, ?_, ?_⟩
    · simp [htelegrams, hcheck]
    · simp [htelegrams]
    · simp [hrejections, hcheck, hdue, hheard]
    · simp [hrejections, hcheck]

/-- Where nothing is judged, the piece was not due, or it was not heard and would not have been
accepted. -/
theorem isVerdictOn_of_passed {piece : Bytes} {offset : Nat} (hverdicts : o.verdicts = [])
    (hpassed : ¬ (Due ∧ Heard)) (hheard : ∀ kind, c.check piece = .ok kind → Heard) :
    o.IsVerdictOn c piece offset Due Heard := by
  have htelegrams : o.telegrams = [] := by rw [telegrams, hverdicts]; rfl
  have hrejections : o.rejections = [] := by rw [rejections, hverdicts]; rfl
  refine ⟨?_, ?_, ?_, ?_⟩
  · rw [htelegrams]
    refine ⟨fun h => absurd rfl h, ?_⟩
    rintro ⟨hdue, kind, hkind⟩
    exact absurd ⟨hdue, hheard kind hkind⟩ hpassed
  · simp [htelegrams]
  · rw [hrejections]
    refine ⟨fun h => absurd rfl h, ?_⟩
    rintro ⟨hdue, hheard, -⟩
    exact absurd ⟨hdue, hheard⟩ hpassed
  · simp [hrejections]

/-- So it is settled by which candidates there are. -/
theorem isVerdictOn_of_candidates {piece : Bytes} {kind : TelegramKind} {offset : Nat} {Taken : Prop}
    [Decidable Taken] (hverdicts : o.verdicts = o.extraction.candidates.map c.judge)
    (hcandidates : o.extraction.candidates =
      if Taken then [{ bytes := piece, choice, kind, offset }] else [])
    (htaken : Taken ↔ Due ∧ Heard) (hheard : ∀ kind, c.check piece = .ok kind → Heard) :
    o.IsVerdictOn c piece offset Due Heard := by
  rw [hcandidates] at hverdicts
  by_cases h : Taken
  · rw [if_pos h] at hverdicts
    obtain ⟨hdue, hheard⟩ := htaken.1 h
    exact isVerdictOn_of_taken hverdicts hdue hheard
  · rw [if_neg h] at hverdicts
    exact isVerdictOn_of_passed hverdicts (fun hboth => h (htaken.2 hboth)) hheard

end Outcome

/-! ### The two rules -/

namespace Config

/-- What the checks accept begins with an anchor, so there is one in it. -/
theorem occurs_of_check (hc : c.IsValid) {bytes : Bytes} {kind : TelegramKind}
    (h : c.check bytes = .ok kind) : ∃ a ∈ c.anchors, ∃ i, a.OccursAt bytes i := by
  obtain ⟨-, -, s, hs, -⟩ := (check_eq_ok_iff hc).1 h
  exact ⟨s.anchor, hs.mem, s.offset, hs.occurs⟩

section Rules

variable (hc : c.IsValid) (hchoice : c.rules.ruleFor payload.length = .ok choice)
  (houtcome : c.outcome payload = .ok o)

include hchoice houtcome

/-- The candidates of an outcome are those of the rule for the length. -/
theorem candidates_of_outcome :
    o.verdicts = o.extraction.candidates.map c.judge ∧ o.extraction.candidates =
      (Extraction.apply c.anchors choice (Envelope.strip payload)).1 := by
  obtain ⟨hextract, hverdicts⟩ := outcome_eq_ok_iff.1 houtcome
  obtain ⟨choice', hchoice', he⟩ := extract_eq_ok_iff.1 hextract
  rw [hchoice] at hchoice'
  cases hchoice'
  exact ⟨hverdicts, by rw [he]⟩

include hc

/-- A single frame is the core. -/
theorem isVerdictOn_singleFrame {leastCore : UInt64} (hrule : choice.rule = .singleFrame leastCore) :
    o.IsVerdictOn c (Envelope.strip payload).core (Envelope.strip payload).coreOffset
      (leastCore.toNat ≤ (Envelope.strip payload).core.length)
      ((Envelope.strip payload).wrapped = true ∨
        ∃ a ∈ c.anchors, ∃ i, a.OccursAt (Envelope.strip payload).core i) := by
  obtain ⟨hverdicts, hcandidates⟩ := candidates_of_outcome hchoice houtcome
  simp only [Extraction.apply, hrule, Extraction.singleFrame_fst] at hcandidates
  refine Outcome.isVerdictOn_of_candidates hverdicts hcandidates ?_
    fun kind hkind => .inr (occurs_of_check hc hkind)
  rw [Anchor.occursIn_iff]

/-- What trimming leaves is always due. -/
theorem isVerdictOn_offsetTrim {leading trailing : UInt64}
    (hrule : choice.rule = .offsetTrim leading trailing) :
    leading.toNat + trailing.toNat < payload.length ∧
      o.IsVerdictOn c (payload.slice leading.toNat (payload.length - trailing.toNat)) leading.toNat True
        (∃ a ∈ c.anchors, ∃ i,
          a.OccursAt (payload.slice leading.toNat (payload.length - trailing.toNat)) i) := by
  obtain ⟨-, hlong⟩ := RuleTable.row_of_ruleFor hc.rules hchoice hrule
  obtain ⟨hverdicts, hcandidates⟩ := candidates_of_outcome hchoice houtcome
  simp only [Extraction.apply, hrule, Envelope.strip_payload, Extraction.offsetTrim_fst _ _ hlong]
    at hcandidates
  refine ⟨hlong, Outcome.isVerdictOn_of_candidates hverdicts hcandidates ?_
    fun kind hkind => occurs_of_check hc hkind⟩
  rw [Anchor.occursIn_iff, true_and]

end Rules

/-- Telegrams by the standard anchors have 38 or 49 bytes. -/
theorem length_of_check_standardFor {m : Meter} {least : UInt64} (hc : (standardFor m least).IsValid)
    {bytes : Bytes} {kind : TelegramKind} (h : (standardFor m least).check bytes = .ok kind) :
    bytes.length = 38 ∨ bytes.length = 49 := by
  obtain ⟨-, hcount, s, hs, -⟩ := (check_eq_ok_iff hc).1 h
  rw [hs.length_eq (isReingestible_standardFor m least) hcount]
  have hmem : s.anchor = .compact ∨ s.anchor = .full := by
    simpa [standardFor, standard] using hs.mem
  rcases hmem with hanchor | hanchor
  · exact .inl (by rw [hanchor]; rfl)
  · exact .inr (by rw [hanchor]; rfl)

end Config

namespace Receiver

/-- **Pieces that are taken as a whole** are accepted or refused as the checks say, once and at their
place. Under a rule for single frames the piece is the core, which is due if it is long enough; under a
rule that trims it is what trimming leaves of the payload, envelope or not. With the standard anchors and
rules, whichever meter is listened for, no notification of 59 or 70 bytes yields a telegram. -/
theorem process_whole (r : Receiver) (n : Notification) :
    (∀ choice leastCore, r.config.rules.ruleFor n.payload.length = .ok choice →
      choice.rule = .singleFrame leastCore → ∃ o, (r.process n).1 = .ok o ∧
        o.IsVerdictOn r.config (Envelope.strip n.payload).core
          (if (Envelope.strip n.payload).wrapped = true then 4 else 0)
          (leastCore.toNat ≤ (Envelope.strip n.payload).core.length)
          ((Envelope.strip n.payload).wrapped = true ∨
            ∃ a ∈ r.config.anchors, ∃ i, a.OccursAt (Envelope.strip n.payload).core i)) ∧
    (∀ choice leading trailing, r.config.rules.ruleFor n.payload.length = .ok choice →
      choice.rule = .offsetTrim leading trailing → ∃ o, (r.process n).1 = .ok o ∧
        leading.toNat + trailing.toNat < n.payload.length ∧
        o.IsVerdictOn r.config
          (n.payload.slice leading.toNat (n.payload.length - trailing.toNat)) leading.toNat True
          (∃ a ∈ r.config.anchors, ∃ i,
            a.OccursAt (n.payload.slice leading.toNat (n.payload.length - trailing.toNat)) i)) ∧
    (∀ m least, r.config = .standardFor m least → n.payload.length = 59 ∨ n.payload.length = 70 →
      ∃ o, (r.process n).1 = .ok o ∧ o.telegrams = []) := by
  have hprocess := r.process_fst n
  refine ⟨fun choice leastCore hchoice hrule => ?_, fun choice leading trailing hchoice hrule => ?_,
    fun m least hconfig hlength => ?_⟩
  · obtain ⟨o, ho⟩ := Config.exists_outcome hchoice
    exact ⟨o, hprocess.trans ho, Config.isVerdictOn_singleFrame r.isValid hchoice ho hrule⟩
  · obtain ⟨o, ho⟩ := Config.exists_outcome hchoice
    exact ⟨o, hprocess.trans ho, Config.isVerdictOn_offsetTrim r.isValid hchoice ho hrule⟩
  · have hvalid := r.isValid
    rw [hconfig] at hprocess hvalid
    obtain ⟨leastCore, source, hchoice⟩ : ∃ leastCore source,
        (Config.standardFor m least).rules.ruleFor n.payload.length =
          .ok ⟨source, .singleFrame leastCore⟩ := by
      rcases hlength with hlength | hlength
      · rw [hlength]
        exact ⟨38, .row 59, show RuleTable.standard.ruleFor 59 = _ by decide⟩
      · rw [hlength]
        exact ⟨49, .row 70, show RuleTable.standard.ruleFor 70 = _ by decide⟩
    obtain ⟨o, ho⟩ := Config.exists_outcome hchoice
    refine ⟨o, hprocess.trans ho, Classical.not_not.1 fun hsome => ?_⟩
    have hverdict := Config.isVerdictOn_singleFrame hvalid hchoice ho rfl
    obtain ⟨-, kind, hkind⟩ := hverdict.accepted_iff.1 hsome
    have hcore := Config.length_of_check_standardFor hvalid hkind
    cases hwrapped : (Envelope.strip n.payload).wrapped with
    | false =>
      rw [Envelope.core_of_not_wrapped hwrapped] at hcore
      omega
    | true =>
      have hlong := Envelope.length_core_of_wrapped hwrapped
      omega

/-- A compact telegram of the standard meter. -/
def plainTelegram : Bytes :=
  [0x25, 0x44, 0x2D, 0x2C] ++ Meter.standard.wire ++ List.replicate 28 0

/-- A receiver with a row for compact telegrams in envelopes. -/
def enveloped : Receiver :=
  ofValid (Config.standard.withRules (RuleTable.empty.insert 46 (.singleFrame 38))) (by decide)

theorem process_whole_plainTelegram :
    (∃ o, (enveloped.process (.arriving (Envelope.wrap plainTelegram) "-")).1 = .ok o ∧
      o.telegrams ≠ []) ∧
    (∃ o, (standard.process (.arriving
        (List.replicate 54 0 ++ plainTelegram ++ List.replicate 4 0) "-")).1 = .ok o ∧
      o.telegrams ≠ []) ∧
    ∃ o, (standard.process (.arriving (Envelope.wrap (plainTelegram ++ List.replicate 13 0)) "-")).1 =
      .ok o ∧ o.telegrams = [] := by
  refine ⟨?_, ?_, ?_⟩
  · obtain ⟨o, ho, hverdict⟩ := (process_whole enveloped (.arriving (Envelope.wrap plainTelegram) "-")).1
      ⟨.row 46, .singleFrame 38⟩ 38 (by decide) rfl
    exact ⟨o, ho, hverdict.accepted_iff.2 ⟨by decide, .compact, by decide⟩⟩
  · obtain ⟨o, ho, -, hverdict⟩ := (process_whole standard (.arriving
        (List.replicate 54 0 ++ plainTelegram ++ List.replicate 4 0) "-")).2.1
      ⟨.row 96, .offsetTrim 54 4⟩ 54 4 (by decide) rfl
    exact ⟨o, ho, hverdict.accepted_iff.2 ⟨trivial, .compact, by decide⟩⟩
  · exact (process_whole standard _).2.2 .standard 10 rfl (by decide)

end Receiver

end MeterBridge
