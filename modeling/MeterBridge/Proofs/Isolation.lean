import MeterBridge.Proofs.Meter
import MeterBridge.Proofs.Receiver

/-!
# Isolation of meters

Two valid configurations that differ in their meters alone cut the same candidates out of every payload:
the address of the meter is looked at only when a candidate is judged. There it is the last thing that is
looked at, behind the same anchor for both, and different meters have different addresses on the wire. So
a candidate that one of the configurations accepts has nothing wrong with it for the other one but the
address (`meters_isolated`).
-/

namespace MeterBridge.Config

open Anchor (Sighting)

variable {c c' : Config} {bytes : Bytes} {d : Candidate}

/-- The configurations differ in nothing but their meters. -/
structure SameButMeter (c c' : Config) : Prop where
  /-- They have the same anchors. -/
  anchors : c'.anchors = c.anchors
  /-- They have the same rules. -/
  rules : c'.rules = c.rules
  /-- They want telegrams of the same least length. -/
  leastTelegram : c'.leastTelegram = c.leastTelegram

theorem SameButMeter.symm (h : c.SameButMeter c') : c'.SameButMeter c :=
  ⟨h.anchors.symm, h.rules.symm, h.leastTelegram.symm⟩

/-- The meter does not bear on what is cut. -/
theorem SameButMeter.extract_eq (h : c.SameButMeter c') (payload : Bytes) :
    c'.extract payload = c.extract payload := by
  simp only [extract, h.anchors, h.rules]

/-! ### One address behind one anchor -/

/-- Behind the first listed anchor there is room for one meter only. -/
theorem AddressedBy.meter_eq {s s' : Sighting} (hc : c.IsValid) (hc' : c'.IsValid)
    (h : c.SameButMeter c') (hs : c.AddressedBy bytes s) (hs' : c'.AddressedBy bytes s') :
    c.meter = c'.meter := by
  have hlisted : s'.IsFirstListed c.anchors bytes := h.anchors ▸ hs'.toIsFirstListed
  have hsame : s' = s := hlisted.unique hs.toIsFirstListed (hs'.offset_eq.trans hs.offset_eq.symm)
  have hfollowed := hs'.followed
  rw [hsame] at hfollowed
  -- Both addresses are the six bytes behind the same pattern.
  have hprefix := List.prefix_of_prefix_length_le hs.followed hfollowed (by simp [Meter.wire])
  have hwire := (List.prefix_append_right_inj _).1 hprefix
  refine (Meter.wire_inj (isValid_iff.1 hc).2.1 (isValid_iff.1 hc').2.1).1 ?_
  exact hwire.eq_of_length (by simp [Meter.wire])

/-- A telegram of one meter fails as a telegram of another one by its address, and by nothing else. -/
theorem IsTelegram.firstFailure (hc : c.IsValid) (hc' : c'.IsValid) (h : c.SameButMeter c')
    (hmeter : c'.meter ≠ c.meter) (ht : c.IsTelegram bytes) : c'.FirstFailure bytes .idMismatch := by
  have hlong : c'.LongEnough bytes := by
    rw [LongEnough, h.leastTelegram]
    exact ht.longEnough
  have hanchored : c'.Anchored bytes := by
    rw [Anchored, h.anchors]
    exact ht.anchored
  refine .idMismatch hlong ht.countsItself hanchored ?_
  rintro ⟨s', hs'⟩
  obtain ⟨s, hs⟩ := ht.addressed
  exact hmeter (hs.meter_eq hc hc' h hs').symm

/-! ### Candidates -/

/-- The candidate is accepted as a telegram of the meter. -/
def Accepts (c : Config) (d : Candidate) : Prop := ∃ t, c.judge d = .ok t

instance (c : Config) (d : Candidate) : Decidable (c.Accepts d) :=
  match h : c.judge d with
  | .ok t => .isTrue ⟨t, h⟩
  | .error _ => .isFalse fun ⟨_, ht⟩ => nomatch h.symm.trans ht

theorem accepts_iff (hc : c.IsValid) : c.Accepts d ↔ c.IsTelegram d.bytes := by
  constructor
  · rintro ⟨t, ht⟩
    by_contra hnot
    obtain ⟨reason, -, hreason⟩ := judge_of_not_isTelegram hc hnot
    rw [hreason] at ht
    cases ht
  · intro ht
    obtain ⟨kind, hkind⟩ := judge_of_isTelegram hc ht
    exact ⟨_, hkind⟩

/-- What one of the configurations accepts, the other one rejects for its address. -/
theorem Accepts.judge_eq (hc : c.IsValid) (hc' : c'.IsValid) (h : c.SameButMeter c')
    (hmeter : c'.meter ≠ c.meter) (hd : c.Accepts d) :
    c'.judge d = .error { reason := .idMismatch, candidate := d } := by
  have hfailure := ((accepts_iff hc).1 hd).firstFailure hc hc' h hmeter
  rw [judge, hfailure.check_eq hc']

/-- The configurations agree on no telegram among the candidates of a payload. -/
structure IsolatedOn (c c' : Config) (payload : Bytes) : Prop where
  /-- No candidate is accepted under both. -/
  not_both : ∀ e, c.extract payload = .ok e → ∀ d ∈ e.candidates, ¬ (c.Accepts d ∧ c'.Accepts d)
  /-- What the first one accepts, the second one rejects for its address. -/
  rejected : ∀ e, c.extract payload = .ok e → ∀ d ∈ e.candidates, c.Accepts d →
    c'.judge d = .error { reason := .idMismatch, candidate := d }
  /-- And the other way round. -/
  rejected' : ∀ e, c.extract payload = .ok e → ∀ d ∈ e.candidates, c'.Accepts d →
    c.judge d = .error { reason := .idMismatch, candidate := d }

/-- **Isolation**: valid configurations that differ in their meters alone cut the same out of every
payload; and if the meters do differ, then a candidate that one of them accepts is rejected by the other
one for its address. -/
theorem meters_isolated (hc : c.IsValid) (hc' : c'.IsValid) (h : c.SameButMeter c') (payload : Bytes) :
    c'.extract payload = c.extract payload ∧ (c'.meter ≠ c.meter → c.IsolatedOn c' payload) := by
  refine ⟨h.extract_eq payload, fun hmeter => ⟨?_, ?_, ?_⟩⟩
  · rintro e - d - ⟨hd, t, ht⟩
    rw [hd.judge_eq hc hc' h hmeter] at ht
    cases ht
  · intro e _ d _ hd
    exact hd.judge_eq hc hc' h hmeter
  · intro e _ d _ hd
    exact hd.judge_eq hc' hc h.symm hmeter.symm

/-- The configuration for the other meter in the mixed payload. -/
def neighbour : Config := standard.withMeter { Meter.standard with version := 0 }

/-- The mixed payload holds a telegram for each of the two meters. -/
theorem meters_isolated_neighbour :
    (neighbour.extract Receiver.mixedPayload = standard.extract Receiver.mixedPayload ∧
      standard.IsolatedOn neighbour Receiver.mixedPayload) ∧
      (standard.extract Receiver.mixedPayload).toOption.map
        (·.candidates.map fun d => (decide (standard.Accepts d), decide (neighbour.Accepts d))) =
      some [(true, false), (false, true)] := by
  have hvalid : standard.IsValid := by decide
  have hvalid' : neighbour.IsValid := by decide
  obtain ⟨hextract, hisolated⟩ := meters_isolated hvalid hvalid' ⟨rfl, rfl, rfl⟩ Receiver.mixedPayload
  exact ⟨⟨hextract, hisolated (by decide)⟩, by decide +kernel⟩

end MeterBridge.Config
