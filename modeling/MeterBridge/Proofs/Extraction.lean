import MeterBridge.Proofs.Envelope
import MeterBridge.Proofs.Rule
import MeterBridge.Proofs.Scan
import MeterBridge.Proofs.Validity

/-!
# Extractions

What is cut out of a payload. `extract_eq_ok_iff` reduces an extraction to the rule that is chosen,
and `extract_scan_exact` describes the extractions by a scan completely: the candidates are the
windows of the anchors that occur in the core, each at the leftmost place that the candidate before
it leaves, and the tail is incomplete exactly if an anchor is left behind the last of them.

Candidates count their positions in the payload and occurrences are counted in the core; the core
offset is the difference.
-/

namespace MeterBridge

open Anchor (Sighting)

variable {c : Config} {payload : Bytes} {e : Extraction}

/-! ### The rule decides -/

/-- An extraction succeeds if there is a rule, and then it is what the rule cuts. -/
theorem Config.extract_eq_ok_iff :
    c.extract payload = .ok e ↔
      ∃ choice, c.rules.ruleFor payload.length = .ok choice ∧
        e = { choice, declaredLength := payload.length
              wrapped := (Envelope.strip payload).wrapped
              candidates := (Extraction.apply c.anchors choice (Envelope.strip payload)).1
              remark := (Extraction.apply c.anchors choice (Envelope.strip payload)).2 } := by
  rw [extract, Envelope.strip_declaredLength]
  cases c.rules.ruleFor payload.length with
  | error _ => simp [bind, Except.bind]
  | ok choice => simp [bind, Except.bind, pure, Except.pure, eq_comm]

/-- An extraction fails if there is no rule, and for no other cause. -/
theorem Config.extract_eq_error_iff {error : Error} :
    c.extract payload = .error error ↔
      c.rules.LacksRule payload.length ∧ error = .noRule payload.length := by
  rw [← RuleTable.ruleFor_eq_error_iff, extract, Envelope.strip_declaredLength]
  cases c.rules.ruleFor payload.length with
  | error _ => simp [bind, Except.bind]
  | ok choice => simp [bind, Except.bind, pure, Except.pure]

namespace Extraction

/-! ### The windows of a scan -/

/-- Where the last of some candidates ends; `start` if there is none. -/
def lastStop (start : Nat) (candidates : List Candidate) : Nat :=
  (candidates.getLast?.map Candidate.stop).getD start

section Cut

variable {choice : Rule.Choice} {s : Sighting}

/-- A window inside the core is a slice of the payload. -/
theorem cut_bytes (hend : s.windowEnd ≤ (Envelope.strip payload).core.length) :
    (cut choice (Envelope.strip payload) s).bytes =
      payload.slice ((Envelope.strip payload).coreOffset + s.offset)
        ((Envelope.strip payload).coreOffset + s.windowEnd) :=
  Envelope.slice_core hend

theorem length_cut_bytes (hend : s.windowEnd ≤ (Envelope.strip payload).core.length) :
    (cut choice (Envelope.strip payload) s).bytes.length = s.windowEnd - s.offset :=
  Bytes.length_slice_of_le hend

theorem cut_stop (hlt : s.offset < s.windowEnd)
    (hend : s.windowEnd ≤ (Envelope.strip payload).core.length) :
    (cut choice (Envelope.strip payload) s).stop =
      (Envelope.strip payload).coreOffset + s.windowEnd := by
  rw [Candidate.stop, length_cut_bytes hend, cut]
  simp only
  omega

/-- A window that is cut has the bytes of the payload that stand in its place. -/
theorem cut_slice (hlt : s.offset < s.windowEnd)
    (hend : s.windowEnd ≤ (Envelope.strip payload).core.length) :
    (cut choice (Envelope.strip payload) s).bytes =
      payload.slice (cut choice (Envelope.strip payload) s).offset
        (cut choice (Envelope.strip payload) s).stop := by
  rw [cut_bytes hend, cut_stop hlt hend]
  rfl

/-- Windows that are cut follow one another in the payload as well. -/
theorem pairwise_map_cut {anchors : List Anchor} {cuts : List Sighting} {remark : Option Remark}
    (h : Scanned anchors (Envelope.strip payload).core 0 cuts remark) :
    (cuts.map (cut choice (Envelope.strip payload))).Pairwise fun d d' => d.stop ≤ d'.offset := by
  refine List.pairwise_map.2 (h.pairwise.imp_of_mem fun {s t} hs _ hst => ?_)
  obtain ⟨-, -, hlt, hend⟩ := h.of_mem hs
  rw [cut_stop hlt hend]
  exact Nat.add_le_add_left hst _

end Cut

/-- The candidates of a scan stop where the scan does. -/
theorem lastStop_map_cut {choice : Rule.Choice} {anchors : List Anchor} {cuts : List Sighting}
    {remark : Option Remark} (h : Scanned anchors (Envelope.strip payload).core 0 cuts remark) :
    lastStop (Envelope.strip payload).coreOffset (cuts.map (cut choice (Envelope.strip payload))) =
      (Envelope.strip payload).coreOffset + scanStop 0 cuts := by
  rw [lastStop, scanStop, List.getLast?_map]
  cases hlast : cuts.getLast? with
  | none => rfl
  | some s =>
    obtain ⟨-, -, hlt, hend⟩ := h.of_mem (List.mem_of_getLast? hlast)
    exact cut_stop hlt hend

/-- The candidates are exactly the windows of a scan of the core. -/
structure IsExactScan (anchors : List Anchor) (frame : Envelope.Stripped) (e : Extraction) :
    Prop where
  /-- A candidate ends before the next one begins. -/
  ordered : e.candidates.Pairwise fun d d' => d.stop ≤ d'.offset
  /-- A candidate is not empty, lies in the core and has the bytes of the payload that stand
  there. -/
  inside : ∀ d ∈ e.candidates, frame.coreOffset ≤ d.offset ∧ d.offset < d.stop ∧
    d.stop ≤ frame.coreOffset + frame.core.length ∧ d.bytes = frame.payload.slice d.offset d.stop
  /-- A candidate begins where an anchor occurs, and has the window and the kind of the first anchor
  in the list that does. -/
  anchored : ∀ d ∈ e.candidates, ∃ s : Sighting, s.IsFirstListed anchors frame.core ∧
    d.offset = frame.coreOffset + s.offset ∧ d.bytes.length = s.anchor.window.toNat ∧
      d.kind = s.anchor.kind
  /-- An anchor occurs nowhere but inside a candidate and, if the tail is incomplete, behind the last
  one. -/
  covered : ∀ a ∈ anchors, ∀ i, a.pattern.OccursAt frame.core i →
    (∃ d ∈ e.candidates, d.offset ≤ frame.coreOffset + i ∧ frame.coreOffset + i < d.stop) ∨
      e.hasIncompleteTail = true ∧ lastStop frame.coreOffset e.candidates ≤ frame.coreOffset + i
  /-- The tail is incomplete if and only if an anchor occurs behind the last candidate. -/
  tail_iff : e.hasIncompleteTail = true ↔ ∃ a ∈ anchors, ∃ i,
    lastStop frame.coreOffset e.candidates ≤ frame.coreOffset + i ∧ a.pattern.OccursAt frame.core i
  /-- If it is, the window of the leftmost anchor there, the first in the list of those that occur at
  that place, runs past the end of the core. -/
  cutShort : e.hasIncompleteTail = true → ∃ s : Sighting,
    s.IsFirstFrom anchors frame.core (lastStop frame.coreOffset e.candidates - frame.coreOffset) ∧
      frame.core.length < s.offset + s.anchor.window.toNat
  /-- The scan went on until no anchor was left or a window ran past the end. -/
  ended : ∀ i, e.remark ≠ some (.stalled i)

/-- The extraction by a scan that cuts these windows and ends with this remark. -/
def ofScan (choice : Rule.Choice) (payload : Bytes) (cuts : List Sighting) (remark : Option Remark) :
    Extraction :=
  { choice, declaredLength := payload.length, wrapped := (Envelope.strip payload).wrapped
    candidates := cuts.map (cut choice (Envelope.strip payload)), remark }

section Exact

variable (choice : Rule.Choice) {anchors : List Anchor} {cuts : List Sighting} {remark : Option Remark}
  (h : Scanned anchors (Envelope.strip payload).core 0 cuts remark)
  (husable : ∀ a ∈ anchors, a.IsUsable) (hlength : payload.length < Anchor.greatestPosition)

include h

/-- A window that is cut lies in the core, and begins and ends in the payload where it does there. -/
theorem Scanned.cut_inside {s : Sighting} (hs : s ∈ cuts) :
    (Extraction.cut choice (Envelope.strip payload) s).stop =
        (Envelope.strip payload).coreOffset + s.windowEnd ∧
      s.offset < s.windowEnd ∧ s.windowEnd ≤ (Envelope.strip payload).core.length := by
  obtain ⟨-, -, hlt, hend⟩ := h.of_mem hs
  exact ⟨cut_stop hlt hend, hlt, hend⟩

include husable hlength

/-- By usable anchors the scan never stalls. -/
theorem Scanned.ended (i : Nat) : remark ≠ some (.stalled i) := by
  have hcore := Envelope.coreOffset_add_length_le payload
  exact h.not_stalled (fun a ha => Nat.zero_lt_of_lt (husable a ha).wire_lt_window) (by omega) i

/-- The tail is incomplete if and only if an anchor occurs where the scan stops, or behind. -/
theorem Scanned.hasIncompleteTail_iff :
    (ofScan choice payload cuts remark).hasIncompleteTail = true ↔ ∃ a ∈ anchors, ∃ i,
      scanStop 0 cuts ≤ i ∧ a.pattern.OccursAt (Envelope.strip payload).core i := by
  rcases h.stop.nil_cases (h.ended husable hlength) with ⟨hnone, rfl⟩ | ⟨s, hs, -, rfl⟩
  · refine ⟨fun htrue => absurd htrue Bool.false_ne_true, ?_⟩
    rintro ⟨a, ha, i, hi, hai⟩
    exact absurd ⟨(husable a ha).pattern_ne_nil, hai⟩ (hnone a ha i hi)
  · exact ⟨fun _ => ⟨s.anchor, hs.mem, s.offset, hs.start_le, hs.occurs.2⟩, fun _ => rfl⟩

/-- If it is, the window of the first anchor there is too long. -/
theorem Scanned.exists_cutShort
    (htail : (ofScan choice payload cuts remark).hasIncompleteTail = true) :
    ∃ s : Sighting, s.IsFirstFrom anchors (Envelope.strip payload).core (scanStop 0 cuts) ∧
      (Envelope.strip payload).core.length < s.offset + s.anchor.window.toNat := by
  rcases h.stop.nil_cases (h.ended husable hlength) with ⟨-, rfl⟩ | ⟨s, hs, hshort, -⟩
  · cases htail
  · exact ⟨s, hs, Nat.lt_of_lt_of_le hshort (Nat.min_le_left _ _)⟩

/-- The windows of a scan by usable anchors are exact. -/
theorem Scanned.isExactScan :
    (ofScan choice payload cuts remark).IsExactScan anchors (Envelope.strip payload) := by
  have hcore : (Envelope.strip payload).core.length < Anchor.greatestPosition := by
    have := Envelope.coreOffset_add_length_le payload
    omega
  have hlast : lastStop (Envelope.strip payload).coreOffset
      (ofScan choice payload cuts remark).candidates =
        (Envelope.strip payload).coreOffset + scanStop 0 cuts := lastStop_map_cut h
  have htail := h.hasIncompleteTail_iff choice husable hlength
  refine ⟨pairwise_map_cut h, ?_, ?_, ?_, ?_, ?_, h.ended husable hlength⟩
  · intro d hd
    obtain ⟨s, hs, rfl⟩ := List.mem_map.1 hd
    obtain ⟨hstop, hlt, hend⟩ := h.cut_inside choice hs
    rw [Envelope.strip_payload, ← cut_slice hlt hend, hstop]
    exact ⟨Nat.le_add_right _ _, Nat.add_lt_add_left hlt _, Nat.add_le_add_left hend _, rfl⟩
  · intro d hd
    obtain ⟨s, hs, rfl⟩ := List.mem_map.1 hd
    obtain ⟨hlisted, -, -, hend⟩ := h.of_mem hs
    refine ⟨s, hlisted, rfl, ?_, rfl⟩
    rw [length_cut_bytes hend, windowEnd_eq hend hcore]
    omega
  · intro a ha i hai
    rcases h.covered ha (Nat.zero_le i) ⟨(husable a ha).pattern_ne_nil, hai⟩ with ⟨s, hs, hsi⟩ | hi
    · refine .inl ⟨_, List.mem_map_of_mem hs, Nat.add_le_add_left hsi.1 _, ?_⟩
      rw [(h.cut_inside choice hs).1]
      exact Nat.add_lt_add_left hsi.2 _
    · refine .inr ⟨htail.2 ⟨a, ha, i, hi, hai⟩, ?_⟩
      rw [hlast]
      exact Nat.add_le_add_left hi _
  · rw [htail, hlast]
    simp only [Nat.add_le_add_iff_left]
  · intro hcut
    rw [hlast, Nat.add_sub_cancel_left]
    exact h.exists_cutShort choice husable hlength hcut

end Exact

/-! ### Candidates of any rule -/

section AnyRule

variable {anchors : List Anchor} {choice : Rule.Choice} {d : Candidate}

/-- The core is taken as a whole if it is long enough and has been in an envelope or holds an
anchor. -/
theorem singleFrame_fst (anchors : List Anchor) (choice : Rule.Choice) (frame : Envelope.Stripped)
    (leastCore : Nat) :
    (singleFrame anchors choice frame leastCore).1 =
      if leastCore ≤ frame.core.length ∧
          (frame.wrapped = true ∨ Anchor.occursIn anchors frame.core = true) then
        [{ bytes := frame.core, choice, kind := Anchor.kindOf anchors frame.core
           offset := frame.coreOffset }]
      else [] := by
  dsimp only [singleFrame]
  by_cases hshort : frame.core.length < leastCore
  · rw [if_pos hshort, if_neg fun h => Nat.not_le.2 hshort h.1]
  · have hlong := Nat.le_of_not_lt hshort
    rw [if_neg hshort]
    cases frame.wrapped <;> cases Anchor.occursIn anchors frame.core <;> simp [hlong]

/-- What trimming leaves is taken as a whole if it holds an anchor. -/
theorem offsetTrim_fst (anchors : List Anchor) (choice : Rule.Choice) {leading trailing : Nat}
    (hlong : leading + trailing < payload.length) :
    (offsetTrim anchors choice payload leading trailing).1 =
      if Anchor.occursIn anchors (payload.slice leading (payload.length - trailing)) = true then
        [{ bytes := payload.slice leading (payload.length - trailing), choice
           kind := Anchor.kindOf anchors (payload.slice leading (payload.length - trailing))
           offset := leading }]
      else [] := by
  dsimp only [offsetTrim]
  rw [if_neg (Nat.not_le.2 hlong)]
  split <;> rfl

/-- The candidate of a single frame is the core. -/
theorem eq_of_mem_singleFrame {frame : Envelope.Stripped} {leastCore : Nat}
    (hd : d ∈ (singleFrame anchors choice frame leastCore).1) :
    d = { bytes := frame.core, choice, kind := Anchor.kindOf anchors frame.core
          offset := frame.coreOffset } := by
  rw [singleFrame_fst] at hd
  split at hd
  · exact List.mem_singleton.1 hd
  · cases hd

/-- The candidate of a trim is what trimming leaves, and that is not empty. -/
theorem eq_of_mem_offsetTrim {leading trailing : Nat}
    (hd : d ∈ (offsetTrim anchors choice payload leading trailing).1) :
    leading + trailing < payload.length ∧
      d = { bytes := payload.slice leading (payload.length - trailing), choice
            kind := Anchor.kindOf anchors (payload.slice leading (payload.length - trailing))
            offset := leading } := by
  simp only [offsetTrim] at hd
  split at hd
  · cases hd
  · next hlong =>
    split at hd
    · exact ⟨Nat.lt_of_not_le hlong, List.mem_singleton.1 hd⟩
    · cases hd

/-- Rules that take the core or trim the payload cut one candidate at most. -/
theorem length_apply_le (hrule : choice.rule ≠ .multiFrameScan) (anchors : List Anchor)
    (frame : Envelope.Stripped) : (apply anchors choice frame).1.length ≤ 1 := by
  rw [apply]
  split
  · rw [singleFrame_fst]
    split <;> simp
  · dsimp only [offsetTrim]
    split
    · exact Nat.zero_le 1
    · split <;> simp
  · next hscan => exact absurd hscan hrule

/-- Every rule cuts candidates out of the payload as they stand there. -/
theorem slice_of_mem_apply (hd : d ∈ (apply anchors choice (Envelope.strip payload)).1) :
    d.stop ≤ payload.length ∧ d.bytes = payload.slice d.offset d.stop := by
  rw [apply] at hd
  split at hd
  · obtain rfl := eq_of_mem_singleFrame hd
    exact ⟨(Envelope.core_eq_slice payload).2, (Envelope.core_eq_slice payload).1⟩
  · rw [Envelope.strip_payload] at hd
    obtain ⟨hlong, rfl⟩ := eq_of_mem_offsetTrim hd
    simp only [Candidate.stop, Bytes.length_slice_of_le (Nat.sub_le _ _)]
    rw [Nat.add_sub_of_le (by omega)]
    exact ⟨Nat.sub_le _ _, rfl⟩
  · have hscanned := scanned_scanFrom anchors (Envelope.strip payload).core 0
    obtain ⟨s, hs, rfl⟩ := List.mem_map.1 hd
    obtain ⟨-, -, hlt, hend⟩ := hscanned.of_mem hs
    refine ⟨?_, cut_slice hlt hend⟩
    rw [cut_stop hlt hend]
    exact Nat.le_trans (Nat.add_le_add_left hend _) (Envelope.coreOffset_add_length_le payload)

/-- Every rule cuts candidates from left to right, and no byte belongs to two of them. -/
theorem pairwise_apply (anchors : List Anchor) (choice : Rule.Choice) (payload : Bytes) :
    (apply anchors choice (Envelope.strip payload)).1.Pairwise fun d d' => d.stop ≤ d'.offset := by
  by_cases hrule : choice.rule = .multiFrameScan
  · simp only [apply, hrule, multiFrameScan]
    exact pairwise_map_cut (scanned_scanFrom _ _ _)
  · have hone := length_apply_le hrule anchors (Envelope.strip payload)
    match hcandidates : (apply anchors choice (Envelope.strip payload)).1 with
    | [] => exact .nil
    | [d] => exact List.pairwise_singleton _ d
    | _ :: _ :: _ =>
      rw [hcandidates] at hone
      simp at hone

end AnyRule

end Extraction

namespace Config

variable {choice : Rule.Choice}

theorem slice_of_mem_candidates (h : c.extract payload = .ok e) {d : Candidate}
    (hd : d ∈ e.candidates) : d.stop ≤ payload.length ∧ d.bytes = payload.slice d.offset d.stop := by
  obtain ⟨choice, -, rfl⟩ := extract_eq_ok_iff.1 h
  exact Extraction.slice_of_mem_apply hd

theorem pairwise_candidates (h : c.extract payload = .ok e) :
    e.candidates.Pairwise fun d d' => d.stop ≤ d'.offset := by
  obtain ⟨choice, -, rfl⟩ := extract_eq_ok_iff.1 h
  exact Extraction.pairwise_apply _ _ _

/-- A payload whose length selects a scan gives what the scan of its core cuts. -/
theorem extract_of_scanned {cuts : List Sighting} {remark : Option Extraction.Remark}
    (hchoice : c.rules.ruleFor payload.length = .ok choice) (hrule : choice.rule = .multiFrameScan)
    (h : Extraction.Scanned c.anchors (Envelope.strip payload).core 0 cuts remark) :
    c.extract payload = .ok (.ofScan choice payload cuts remark) := by
  refine extract_eq_ok_iff.2 ⟨choice, hchoice, ?_⟩
  simp only [Extraction.apply, hrule, Extraction.multiFrameScan, Extraction.ofScan, h.eq_scanFrom]

/-- **Exactness of the scan**: a payload whose length selects a scan has an extraction, and its
candidates are exactly the windows of the anchors that occur in the core. A payload in memory is
always shorter than the greatest position. -/
theorem extract_scan_exact (hc : c.IsValid) (hlength : payload.length < Anchor.greatestPosition)
    (hchoice : c.rules.ruleFor payload.length = .ok choice) (hrule : choice.rule = .multiFrameScan) :
    ∃ e, c.extract payload = .ok e ∧ e.IsExactScan c.anchors (Envelope.strip payload) := by
  have hscanned := Extraction.scanned_scanFrom c.anchors (Envelope.strip payload).core 0
  exact ⟨_, extract_of_scanned hchoice hrule hscanned,
    hscanned.isExactScan choice (fun a => hc.usable) hlength⟩

/-- Two anchors of which the second is a prefix of the first, under a table that scans everything. -/
def nested : Config :=
  { Config.standard with
    anchors := [⟨[0x0B, 0x44], .compact, 12⟩, ⟨[0x0B], .full, 8⟩]
    rules := RuleTable.empty.withFallback (some .multiFrameScan) }

/-- An envelope whose core holds the longer anchor, the shorter one inside its window, the shorter
one behind it, and at last one whose window is cut short. -/
def nestedPayload : Bytes :=
  Envelope.wrap [0x00, 0x0B, 0x44, 0x0B, 0x0B, 0, 0, 0, 0, 0, 0, 0, 0, 0x0B, 0x0B, 0x44, 0, 0, 0, 0, 0,
    0x11, 0x0B, 0x44, 0x0B]

theorem extract_scan_exact_nested :
    ∃ e, nested.extract nestedPayload = .ok e ∧
      e.IsExactScan nested.anchors (Envelope.strip nestedPayload) :=
  extract_scan_exact (by decide) (by decide)
    (show nested.rules.ruleFor nestedPayload.length = .ok ⟨.fallback, .multiFrameScan⟩ by decide) rfl

end Config

end MeterBridge
