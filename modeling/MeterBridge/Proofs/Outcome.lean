import MeterBridge.Outcome
import MeterBridge.Proofs.Extraction
import MeterBridge.Proofs.Verdict

/-!
# Outcomes

What becomes of the candidates of a payload, by whichever rule they are cut. `isSettled_of_outcome`
says that no candidate is lost or counted twice: the telegrams are those candidates that are telegrams
of the meter, the others are rejected for the first thing that they lack, and the telegrams are pieces
of the payload that share no byte.
-/

namespace MeterBridge

variable {c : Config} {payload : Bytes} {o : Outcome}

namespace Outcome

open Classical in
/-- The outcome divides the candidates of the payload into telegrams and rejections. -/
structure IsSettled (c : Config) (payload : Bytes) (o : Outcome) : Prop where
  /-- The candidates are those of the extraction. -/
  extracted : c.extract payload = .ok o.extraction
  /-- The telegrams are the candidates that are telegrams of the meter, in the same order. -/
  accepted : o.telegrams.map (fun t => (t.bytes, t.choice, t.offset)) =
    (o.extraction.candidates.filter fun d => c.IsTelegram d.bytes).map
      fun d => (d.bytes, d.choice, d.offset)
  /-- The rejections are of the other candidates, in the same order. -/
  rejected : o.rejections.map (·.candidate) =
    o.extraction.candidates.filter fun d => ¬ c.IsTelegram d.bytes
  /-- A rejection gives the first failure as its reason. -/
  reasons : ∀ x ∈ o.rejections, c.FirstFailure x.candidate.bytes x.reason
  /-- A telegram is a piece of the payload, and no longer than a telegram can be. -/
  pieces : ∀ t ∈ o.telegrams, t.offset + t.bytes.length ≤ payload.length ∧
    t.bytes = payload.slice t.offset (t.offset + t.bytes.length) ∧
      t.bytes.length ≤ longestTelegram
  /-- A telegram ends before the next one begins. -/
  disjoint : o.telegrams.Pairwise fun t t' => t.offset + t.bytes.length ≤ t'.offset

open Classical in
/-- A telegram has the bytes and the place of a candidate that is one. -/
theorem exists_candidate_of_mem
    (haccepted : o.telegrams.map (fun t => (t.bytes, t.choice, t.offset)) =
      (o.extraction.candidates.filter fun d => c.IsTelegram d.bytes).map
        fun d => (d.bytes, d.choice, d.offset)) {t : Telegram} (ht : t ∈ o.telegrams) :
    ∃ d ∈ o.extraction.candidates, c.IsTelegram d.bytes ∧ t.bytes = d.bytes ∧ t.offset = d.offset := by
  have hmem := List.mem_map_of_mem (f := fun t : Telegram => (t.bytes, t.choice, t.offset)) ht
  rw [haccepted, List.mem_map] at hmem
  obtain ⟨d, hd, heq⟩ := hmem
  obtain ⟨hd, htelegram⟩ := List.mem_filter.1 hd
  simp only [Prod.mk.injEq] at heq
  exact ⟨d, hd, by simpa using htelegram, heq.1.symm, heq.2.2.symm⟩

theorem IsSettled.isTelegram_of_mem (h : o.IsSettled c payload) {t : Telegram}
    (ht : t ∈ o.telegrams) : c.IsTelegram t.bytes := by
  obtain ⟨d, -, hd, hbytes, -⟩ := exists_candidate_of_mem h.accepted ht
  rwa [hbytes]

theorem telegrams_eq_filterMap (h : o.verdicts = o.extraction.candidates.map c.judge) :
    o.telegrams = o.extraction.candidates.filterMap fun d => (c.judge d).toOption := by
  rw [telegrams, h, List.filterMap_map]
  rfl

theorem rejections_eq_filterMap (h : o.verdicts = o.extraction.candidates.map c.judge) :
    o.rejections = o.extraction.candidates.filterMap fun d => rejection? (c.judge d) := by
  rw [rejections, h, List.filterMap_map]
  rfl

end Outcome

namespace Config

/-- An outcome is an extraction with a verdict on each candidate. -/
theorem outcome_eq_ok_iff :
    c.outcome payload = .ok o ↔
      c.extract payload = .ok o.extraction ∧ o.verdicts = o.extraction.candidates.map c.judge := by
  rw [outcome]
  cases c.extract payload with
  | error _ => simp [bind, Except.bind]
  | ok e =>
    simp only [bind, Except.bind, pure, Except.pure, Except.ok.injEq]
    constructor
    · rintro rfl
      exact ⟨rfl, rfl⟩
    · rintro ⟨rfl, h⟩
      rw [← h]

/-- A candidate that is a telegram is accepted as it stands. -/
theorem judge_of_isTelegram (hc : c.IsValid) {d : Candidate} (h : c.IsTelegram d.bytes) :
    ∃ kind, c.judge d =
      .ok { bytes := d.bytes, kind, choice := d.choice, offset := d.offset } := by
  obtain ⟨kind, hkind⟩ := (isTelegram_iff hc).1 h
  exact ⟨kind, by rw [judge, hkind]⟩

/-- A candidate that is no telegram is rejected for its first failure. -/
theorem judge_of_not_isTelegram (hc : c.IsValid) {d : Candidate} (h : ¬ c.IsTelegram d.bytes) :
    ∃ reason, c.FirstFailure d.bytes reason ∧ c.judge d = .error { reason, candidate := d } := by
  obtain ⟨reason, hreason⟩ := (isTelegram_or_firstFailure c d.bytes).resolve_left h
  exact ⟨reason, hreason, by rw [judge, hreason.check_eq hc]⟩

section Judged

variable (hc : c.IsValid) (ds : List Candidate)

include hc

open Classical in
theorem filterMap_judge_toOption :
    (ds.filterMap fun d => (c.judge d).toOption).map (fun t => (t.bytes, t.choice, t.offset)) =
      (ds.filter fun d => c.IsTelegram d.bytes).map fun d => (d.bytes, d.choice, d.offset) := by
  induction ds with
  | nil => rfl
  | cons d ds ih =>
    by_cases h : c.IsTelegram d.bytes
    · obtain ⟨kind, hkind⟩ := judge_of_isTelegram hc h
      rw [List.filterMap_cons_some (by rw [hkind]; rfl), List.filter_cons_of_pos (by simpa using h),
        List.map_cons, List.map_cons, ih]
    · obtain ⟨reason, -, hreason⟩ := judge_of_not_isTelegram hc h
      rw [List.filterMap_cons_none (by rw [hreason]; rfl), List.filter_cons_of_neg (by simpa using h),
        ih]

open Classical in
theorem filterMap_judge_rejection? :
    (ds.filterMap fun d => Outcome.rejection? (c.judge d)).map (·.candidate) =
      ds.filter fun d => ¬ c.IsTelegram d.bytes := by
  induction ds with
  | nil => rfl
  | cons d ds ih =>
    by_cases h : c.IsTelegram d.bytes
    · obtain ⟨kind, hkind⟩ := judge_of_isTelegram hc h
      rw [List.filterMap_cons_none (by rw [hkind]; rfl), List.filter_cons_of_neg (by simpa using h),
        ih]
    · obtain ⟨reason, -, hreason⟩ := judge_of_not_isTelegram hc h
      rw [List.filterMap_cons_some (by rw [hreason]; rfl),
        List.filter_cons_of_pos (by simpa using h), List.map_cons, ih]

end Judged

/-- A rejected candidate has the failure that is reported as its first one. -/
theorem firstFailure_of_mem_rejections (hc : c.IsValid)
    (hverdicts : o.verdicts = o.extraction.candidates.map c.judge) {x : Rejection}
    (hx : x ∈ o.rejections) : c.FirstFailure x.candidate.bytes x.reason := by
  rw [Outcome.rejections_eq_filterMap hverdicts, List.mem_filterMap] at hx
  obtain ⟨d, -, hx⟩ := hx
  by_cases hd : c.IsTelegram d.bytes
  · obtain ⟨kind, hkind⟩ := judge_of_isTelegram hc hd
    rw [hkind] at hx
    cases hx
  · obtain ⟨reason, hfailure, hreason⟩ := judge_of_not_isTelegram hc hd
    rw [hreason] at hx
    cases hx
    exact hfailure

/-- An outcome under a valid configuration settles every candidate. -/
theorem isSettled_of_outcome (hc : c.IsValid) (h : c.outcome payload = .ok o) :
    o.IsSettled c payload := by
  obtain ⟨hextract, hverdicts⟩ := outcome_eq_ok_iff.1 h
  have haccepted := filterMap_judge_toOption hc o.extraction.candidates
  rw [← Outcome.telegrams_eq_filterMap hverdicts] at haccepted
  have hrejected := filterMap_judge_rejection? hc o.extraction.candidates
  rw [← Outcome.rejections_eq_filterMap hverdicts] at hrejected
  refine ⟨hextract, haccepted, hrejected,
    fun x hx => firstFailure_of_mem_rejections hc hverdicts hx, ?_, ?_⟩
  · intro t ht
    obtain ⟨d, hd, htelegram, hbytes, hoffset⟩ := Outcome.exists_candidate_of_mem haccepted ht
    rw [hbytes, hoffset]
    obtain ⟨hstop, hslice⟩ := slice_of_mem_candidates hextract hd
    exact ⟨hstop, hslice, htelegram.countsItself.length_le⟩
  · have hpairs : (o.telegrams.map fun t => (t.bytes, t.choice, t.offset)).Pairwise
        fun x y => x.2.2 + x.1.length ≤ y.2.2 := by
      rw [haccepted, List.pairwise_map]
      exact (pairwise_candidates hextract).sublist List.filter_sublist
    exact List.pairwise_map.1 hpairs

end Config

end MeterBridge
