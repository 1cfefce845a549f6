import MeterBridge.Proofs.Extraction
import MeterBridge.Proofs.Verdict

/-!
# Windows on their own

An anchor is sought twice. A scan seeks the leftmost one in the whole core and cuts its window; the
checks seek one at the front of what was cut, and see nothing of the core. Both prefer the anchor that
comes first in the list. They find the same anchor, since a window has room for the pattern that it was
cut for, and every pattern at its front occurs at that place of the core as well.

* `Scanned.leading?_cut` — the anchor of a window is found at the front of the window alone.
* `kind_of_mem_apply` — by whichever rule a candidate is cut, its kind is that of the anchor at its
  front.
* `extract_anchors_agree` — so a telegram has the kind of its candidate, and the verdict on a window is
  decided by its anchor and the address field.
-/

namespace MeterBridge

open Anchor (Sighting)

/-! ### The anchor of a window -/

namespace Anchor

variable {anchors : List Anchor} {core : Bytes} {s : Sighting} {stop : Nat}

/-- The sighting as it is made in data that begin with it. -/
def Sighting.atFront (s : Sighting) : Sighting := { s with offset := 0 }

/-- Of the anchors that occur at the front of a window, the one that the window was cut for is the
first in the list, as it is in the core. -/
theorem Sighting.IsFirstListed.slice (h : s.IsFirstListed anchors core)
    (hroom : s.anchor.pattern.length ≤ stop - s.offset) :
    s.atFront.IsFirstListed anchors (core.slice s.offset stop) := by
  refine ⟨h.listed, ⟨h.occurs.1, Bytes.occursAt_slice_zero.2 ⟨h.occurs.2, hroom⟩⟩, ?_⟩
  intro k a hk ha
  have hcore : a.OccursAt core s.offset := ⟨ha.1, (Bytes.occursAt_slice_zero.1 ha.2).1⟩
  exact h.least k a hk hcore

/-- So that anchor is found in the window alone. -/
theorem Sighting.IsFirstListed.leading?_slice (h : s.IsFirstListed anchors core)
    (hroom : s.anchor.pattern.length ≤ stop - s.offset) :
    leading? anchors (core.slice s.offset stop) = some s.atFront :=
  leading?_eq_some_iff.2 ⟨rfl, h.slice hroom⟩

/-- The kind of what begins with an anchor. -/
theorem kindOf_eq {data : Bytes} (h : leading? anchors data = some s) :
    kindOf anchors data = s.anchor.kind := by
  rw [kindOf, h]

end Anchor

namespace Extraction

variable {anchors : List Anchor} {core : Bytes} {cursor : Nat} {cuts : List Sighting}
  {remark : Option Remark} {s : Sighting}

/-- The anchor of each window is what a search of the core has found. -/
theorem Scanned.exists_first? (h : Scanned anchors core cursor cuts remark) (hs : s ∈ cuts) :
    ∃ start, Anchor.first? anchors core start = some s := by
  induction h with
  | exhausted | cutShort | stalled => cases hs
  | @cut cursor t _ _ hfirst _ _ _ ih =>
    rcases List.mem_cons.1 hs with rfl | hs
    · exact ⟨cursor, Anchor.first?_eq_some_iff.2 hfirst⟩
    · exact ih hs

section Window

variable (h : Scanned anchors core cursor cuts remark) (husable : ∀ a ∈ anchors, a.IsUsable)
  (hlength : core.length < Anchor.greatestPosition) (hs : s ∈ cuts)

include h hlength hs

/-- A window inside a core is as long as its anchor says. -/
theorem Scanned.windowEnd_sub : s.windowEnd - s.offset = s.anchor.window.toNat := by
  obtain ⟨-, -, -, hend⟩ := h.of_mem hs
  rw [windowEnd_eq hend hlength]
  omega

include husable

/-- It has room for the pattern and the address field. -/
theorem Scanned.room_le : s.anchor.pattern.length + Meter.wireLength ≤ s.windowEnd - s.offset := by
  obtain ⟨hlisted, -⟩ := h.of_mem hs
  rw [h.windowEnd_sub hlength hs]
  exact (husable s.anchor hlisted.mem).room

/-- The anchor of a window is the one that is found at the front of the window alone. -/
theorem Scanned.leading?_cut :
    Anchor.leading? anchors (core.slice s.offset s.windowEnd) = some s.atFront := by
  obtain ⟨hlisted, -⟩ := h.of_mem hs
  refine hlisted.leading?_slice ?_
  have hroom := h.room_le husable hlength hs
  omega

end Window

/-- By whichever rule a candidate is cut, its kind is that of the anchor at its front. -/
theorem kind_of_mem_apply {choice : Rule.Choice} {payload : Bytes} {d : Candidate}
    (husable : ∀ a ∈ anchors, a.IsUsable) (hlength : payload.length < Anchor.greatestPosition)
    (hd : d ∈ (apply anchors choice (Envelope.strip payload)).1) :
    d.kind = Anchor.kindOf anchors d.bytes := by
  rw [apply] at hd
  split at hd
  · rw [eq_of_mem_singleFrame hd]
  · rw [Envelope.strip_payload] at hd
    rw [(eq_of_mem_offsetTrim hd).2]
  · have hcore := Envelope.coreOffset_add_length_le payload
    have hscanned := scanned_scanFrom anchors (Envelope.strip payload).core 0
    obtain ⟨s, hs, rfl⟩ := List.mem_map.1 hd
    exact (Anchor.kindOf_eq (hscanned.leading?_cut husable (by omega) hs)).symm

end Extraction

/-! ### The verdict on a window -/

namespace Config

variable {c : Config} {payload : Bytes} {e : Extraction} {d : Candidate} {s : Sighting}

/-- The verdict that its anchor and the bytes behind the pattern leave for a window. -/
def windowVerdict (c : Config) (a : Anchor) (d : Candidate) : Except Rejection Telegram :=
  if a.window < c.leastTelegram then .error { reason := .tooShort, candidate := d }
  else if a.pattern.head?.map UInt8.toNat ≠ some (a.window.toNat - 1) then
    .error { reason := .lengthByteMismatch, candidate := d }
  else if d.bytes.slice a.pattern.length (a.pattern.length + Meter.wireLength) ≠ c.meter.wire then
    .error { reason := .idMismatch, candidate := d }
  else .ok { bytes := d.bytes, kind := a.kind, choice := d.choice, offset := d.offset }

/-- A window never lacks an anchor. -/
theorem reason_ne_badAnchor {a : Anchor} {x : Rejection} (h : c.windowVerdict a d = .error x) :
    x.reason ≠ .badAnchor := by
  unfold windowVerdict at h
  split at h
  · cases h; simp
  · split at h
    · cases h; simp
    · split at h
      · cases h; simp
      · cases h

/-- What is as long as the window of the anchor at its front gets the verdict on a window. -/
theorem judge_eq_windowVerdict (hc : c.IsValid) (hleading : Anchor.leading? c.anchors d.bytes = some s)
    (hlength : d.bytes.length = s.anchor.window.toNat) : c.judge d = c.windowVerdict s.anchor d := by
  obtain ⟨hoffset, hlisted⟩ := Anchor.leading?_eq_some_iff.1 hleading
  have hhead : d.bytes.head? = s.anchor.pattern.head? := by
    rw [List.head?_eq_getElem?, ← hoffset]
    exact hlisted.occurs.2.getElem?_eq_head? hlisted.occurs.1
  have hcounts : CountsItself d.bytes ↔
      s.anchor.pattern.head?.map UInt8.toNat = some (s.anchor.window.toNat - 1) := by
    rw [CountsItself, hhead, hlength]
  by_cases hshort : s.anchor.window < c.leastTelegram
  · have hfailure : c.FirstFailure d.bytes .tooShort := by
      refine .tooShort fun hlong => ?_
      rw [LongEnough, hlength] at hlong
      exact absurd (UInt64.lt_iff_toNat_lt.1 hshort) (Nat.not_lt.2 hlong)
    rw [windowVerdict, if_pos hshort, judge, hfailure.check_eq hc]
  have hlong : c.LongEnough d.bytes := by
    rw [LongEnough, hlength]
    exact Nat.le_of_not_lt fun hlt => hshort (UInt64.lt_iff_toNat_lt.2 hlt)
  rw [windowVerdict, if_neg hshort]
  by_cases hcount : CountsItself d.bytes
  · rw [if_neg (not_not_intro (hcounts.1 hcount)), judge, check_of_countsItself hlong hcount, hleading]
    by_cases hfield : d.bytes.slice s.anchor.pattern.length
        (s.anchor.pattern.length + Meter.wireLength) = c.meter.wire
    · simp [hfield]
    · simp [hfield]
  · rw [if_pos fun h => hcount (hcounts.2 h), judge,
      (FirstFailure.lengthByteMismatch hlong hcount).check_eq hc]

/-- A telegram has the kind of the anchor at its front. -/
theorem kind_of_judge (hc : c.IsValid) {t : Telegram} (h : c.judge d = .ok t) :
    t.kind = Anchor.kindOf c.anchors d.bytes := by
  rw [judge] at h
  split at h
  · cases h
  · next kind hcheck =>
    obtain ⟨-, -, s, hs, rfl⟩ := (check_eq_ok_iff hc).1 hcheck
    cases h
    exact (Anchor.kindOf_eq (Anchor.leading?_eq_some_iff.2 ⟨hs.offset_eq, hs.toIsFirstListed⟩)).symm

/-- The scan and the checks see the same of a window. -/
structure WindowAgrees (c : Config) (core : Bytes) (s : Sighting) (d : Candidate) : Prop where
  /-- The anchor is what a search of the whole core finds. -/
  sought : ∃ start, Anchor.first? c.anchors core start = some s
  /-- The window begins where the anchor was found, and is as long as the anchor says. -/
  bytes_eq : d.bytes = core.slice s.offset (s.offset + s.anchor.window.toNat)
  /-- The anchor at the same place of the list is found at the front of the window alone. -/
  found : Anchor.leading? c.anchors d.bytes = some { s with offset := 0 }
  /-- The address field is not cut off. -/
  whole : s.anchor.pattern.length + Meter.wireLength ≤ d.bytes.length
  /-- The window is not rejected for want of an anchor. -/
  anchored : ∀ x, c.judge d = .error x → x.reason ≠ .badAnchor
  /-- The verdict is decided by the anchor and the address field. -/
  verdict : c.judge d = c.windowVerdict s.anchor d

/-- What the extraction and the checks see of the candidates of a payload is the same. -/
structure AnchorsAgree (c : Config) (payload : Bytes) (e : Extraction) : Prop where
  /-- A telegram has the kind of its candidate, whichever rule has cut it. -/
  kinds : ∀ d ∈ e.candidates, ∀ t, c.judge d = .ok t → t.kind = d.kind
  /-- The candidates of a scan are the windows of what it finds in the core. -/
  windows : e.choice.rule = .multiFrameScan →
    e.candidates = (Extraction.scanFrom c.anchors (Envelope.strip payload).core 0).cuts.map
      (Extraction.cut e.choice (Envelope.strip payload))
  /-- For each of them the scan and the checks see the same. -/
  agree : e.choice.rule = .multiFrameScan →
    ∀ s ∈ (Extraction.scanFrom c.anchors (Envelope.strip payload).core 0).cuts,
      c.WindowAgrees (Envelope.strip payload).core s
        (Extraction.cut e.choice (Envelope.strip payload) s)

/-- The scan and the checks see the same of the windows of a scan. -/
theorem windowAgrees_cut (hc : c.IsValid) {core : Bytes} {cuts : List Sighting}
    {remark : Option Extraction.Remark} (h : Extraction.Scanned c.anchors core 0 cuts remark)
    (hlength : core.length < Anchor.greatestPosition) (hs : s ∈ cuts) {d : Candidate}
    (hd : d.bytes = core.slice s.offset s.windowEnd) : c.WindowAgrees core s d := by
  obtain ⟨-, -, hlt, hend⟩ := h.of_mem hs
  have husable : ∀ a ∈ c.anchors, a.IsUsable := fun a => hc.usable
  have hwindow := h.windowEnd_sub hlength hs
  have hbytes : d.bytes.length = s.windowEnd - s.offset := by
    rw [hd, Bytes.length_slice_of_le hend]
  have hleading : Anchor.leading? c.anchors d.bytes = some s.atFront := by
    rw [hd]
    exact h.leading?_cut husable hlength hs
  have hverdict : c.judge d = c.windowVerdict s.anchor d :=
    judge_eq_windowVerdict (s := s.atFront) hc hleading (hbytes.trans hwindow)
  refine ⟨h.exists_first? hs, ?_, hleading, ?_, fun x hx => ?_, hverdict⟩
  · rw [hd, Extraction.windowEnd_eq hend hlength]
  · rw [hbytes]
    exact h.room_le husable hlength hs
  · rw [hverdict] at hx
    exact reason_ne_badAnchor hx

/-- **Agreement on the anchor**: what an extraction says of its candidates the checks say as well, and a
window that a scan has cut is judged by the anchor that the scan has found. A payload in memory is always
shorter than the greatest position. -/
theorem extract_anchors_agree (hc : c.IsValid) (hlength : payload.length < Anchor.greatestPosition)
    (h : c.extract payload = .ok e) : c.AnchorsAgree payload e := by
  have hcore := Envelope.coreOffset_add_length_le payload
  obtain ⟨choice, -, rfl⟩ := extract_eq_ok_iff.1 h
  refine ⟨fun d hd t ht => ?_, fun hrule => ?_, fun hrule s hs => ?_⟩
  · rw [kind_of_judge hc ht]
    exact (Extraction.kind_of_mem_apply (fun a => hc.usable) hlength hd).symm
  · simp only at hrule
    simp only [Extraction.apply, hrule, Extraction.multiFrameScan]
  · exact windowAgrees_cut hc (Extraction.scanned_scanFrom _ _ 0) (by omega) hs rfl

theorem extract_anchors_agree_nested :
    ∃ e, nested.extract nestedPayload = .ok e ∧ e.choice.rule = .multiFrameScan ∧
      nested.AnchorsAgree nestedPayload e := by
  have hchoice : nested.rules.ruleFor nestedPayload.length = .ok ⟨.fallback, .multiFrameScan⟩ := by
    decide
  have hextract := extract_eq_ok_iff.2 ⟨_, hchoice, rfl⟩
  exact ⟨_, hextract, rfl, extract_anchors_agree (by decide) (by decide) hextract⟩

end Config

end MeterBridge
