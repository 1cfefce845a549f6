import MeterBridge.Proofs.Extraction

/-!
# Truncated payloads

A bridge may lose the end of a notification. What a scan cuts from the part that has arrived is what it
would have cut there from the whole, provided that every window has room for every pattern: a pattern that
the missing bytes complete ends behind the part that has arrived, so it begins behind every window that is
complete. Without this room the missing bytes may complete a longer pattern at a place where a short window
has been cut already.

* `Scanned.append_right` — bytes behind a core leave its windows as they are and only add windows that
  reach into them.
* `extract_append` — so the candidates of a payload come first among those of a longer one.
-/

namespace MeterBridge

open Anchor (Sighting)

/-! ### Searches with more bytes -/

namespace Anchor

variable {a : Anchor} {anchors : List Anchor} {data rest : Bytes} {start i : Nat} {s : Sighting}

/-- Every window has room for every pattern, whichever anchor it belongs to. -/
def RoomForAll (anchors : List Anchor) : Prop :=
  ∀ a ∈ anchors, ∀ b ∈ anchors, a.pattern.length ≤ b.window.toNat

instance (anchors : List Anchor) : Decidable (RoomForAll anchors) :=
  inferInstanceAs (Decidable (∀ a ∈ anchors, ∀ b ∈ anchors, a.pattern.length ≤ b.window.toNat))

theorem OccursAt.append_right (h : a.OccursAt data i) (rest : Bytes) : a.OccursAt (data ++ rest) i :=
  ⟨h.1, h.2.append_right⟩

theorem OccursAt.of_append_right (h : a.OccursAt (data ++ rest) i)
    (hend : i + a.pattern.length ≤ data.length) : a.OccursAt data i :=
  ⟨h.1, h.2.of_append_right hend⟩

/-- What is sighted first with bytes behind the data is sighted first without them, if its pattern ends
inside the data: without them there are fewer occurrences. -/
theorem Sighting.IsFirstFrom.of_append_right (h : s.IsFirstFrom anchors (data ++ rest) start)
    (hend : s.offset + s.anchor.pattern.length ≤ data.length) : s.IsFirstFrom anchors data start where
  listed := h.listed
  occurs := h.occurs.of_append_right hend
  least k a hk ha := h.least k a hk (ha.append_right rest)
  start_le := h.start_le
  leftmost a ha i hi hai := h.leftmost a ha i hi (hai.append_right rest)

/-- What is sighted first in the data is sighted first with more bytes behind them, if no pattern that
begins there, or before, can reach into these. -/
theorem Sighting.IsFirstFrom.append_right (h : s.IsFirstFrom anchors data start)
    (hend : ∀ a ∈ anchors, s.offset + a.pattern.length ≤ data.length) (rest : Bytes) :
    s.IsFirstFrom anchors (data ++ rest) start := by
  have hback : ∀ a ∈ anchors, ∀ i ≤ s.offset, a.OccursAt (data ++ rest) i → a.OccursAt data i := by
    intro a ha i hi hai
    have hle := hend a ha
    exact hai.of_append_right (by omega)
  refine ⟨⟨h.listed, h.occurs.append_right rest, ?_⟩, h.start_le, ?_⟩
  · intro k a hk ha
    exact h.least k a hk (hback a (List.mem_of_getElem? hk) s.offset (Nat.le_refl _) ha)
  · intro a ha i hi hai
    refine Nat.le_of_not_lt fun hlt => ?_
    have hle := h.leftmost a ha i hi (hback a ha i (Nat.le_of_lt hlt) hai)
    exact Nat.lt_irrefl _ (Nat.lt_of_lt_of_le hlt hle)

end Anchor

/-! ### Scans with more bytes -/

namespace Extraction

variable {anchors : List Anchor} {core rest : Bytes} {cursor : Nat} {cuts : List Sighting}
  {remark remark' : Option Remark}

section Scan

variable (hroom : Anchor.RoomForAll anchors) (hlength : core.length < Anchor.greatestPosition)

include hroom hlength

/-- Where the scan of a core cuts nothing, a scan with bytes behind the core cuts only windows that reach
into these. -/
theorem Scanned.lt_windowEnd_of_nil (h : Scanned anchors core cursor [] remark)
    (h' : Scanned anchors (core ++ rest) cursor cuts remark') : ∀ s ∈ cuts, core.length < s.windowEnd := by
  cases h' with
  | exhausted | cutShort | stalled => exact List.forall_mem_nil _
  | @cut _ s cuts _ hfirst hend hlt hrest =>
    have hbehind : core.length < s.windowEnd := by
      refine Nat.lt_of_not_le fun hle => ?_
      -- The window would be cut from the core as well.
      have hpattern := hroom s.anchor hfirst.mem s.anchor hfirst.mem
      have hstop := windowEnd_eq hle hlength
      have hfirst' := hfirst.of_append_right (by omega)
      have hcut := Scanned.cut hfirst' hle hlt (scanned_scanFrom anchors core s.windowEnd)
      have hsame := h.eq_scanFrom.symm.trans hcut.eq_scanFrom
      simp at hsame
    refine List.forall_mem_cons.2 ⟨hbehind, fun t ht => ?_⟩
    obtain ⟨-, hle, hlt', -⟩ := hrest.of_mem ht
    omega

/-- **Bytes behind a core leave its windows as they are**, and add only windows that reach into them. -/
theorem Scanned.append_right (h : Scanned anchors core cursor cuts remark) (rest : Bytes) :
    ∃ more remark', Scanned anchors (core ++ rest) cursor (cuts ++ more) remark' ∧
      ∀ s ∈ more, core.length < s.windowEnd := by
  have hnil : ∀ {cursor remark}, Scanned anchors core cursor [] remark →
      ∃ more remark', Scanned anchors (core ++ rest) cursor ([] ++ more) remark' ∧
        ∀ s ∈ more, core.length < s.windowEnd := by
    intro cursor remark h
    have h' := scanned_scanFrom anchors (core ++ rest) cursor
    exact ⟨_, _, h', h.lt_windowEnd_of_nil hroom hlength h'⟩
  induction h with
  | exhausted hnone => exact hnil (.exhausted hnone)
  | cutShort hs hshort => exact hnil (.cutShort hs hshort)
  | stalled hs hend hstall => exact hnil (.stalled hs hend hstall)
  | @cut cursor s cuts remark hfirst hend hlt _ ih =>
    obtain ⟨more, remark', hmore, hbehind⟩ := ih
    have hstop := windowEnd_eq hend hlength
    have hfirst' : s.IsFirstFrom anchors (core ++ rest) cursor := by
      refine hfirst.append_right (fun a ha => ?_) rest
      have hpattern := hroom a ha s.anchor hfirst.mem
      omega
    have hend' : s.windowEnd ≤ (core ++ rest).length := by
      rw [List.length_append]
      exact Nat.le_add_right_of_le hend
    exact ⟨more, remark', .cut hfirst' hend' hlt hmore, hbehind⟩

end Scan

end Extraction

/-! ### Candidates of a longer payload -/

/-- What a candidate is without the rule that has cut it: its bytes, its kind and its place. -/
def Candidate.piece (d : Candidate) : Bytes × TelegramKind × Nat := (d.bytes, d.kind, d.offset)

namespace Extraction

/-- An extraction continues that of a payload of this length. -/
structure Continues (e' e : Extraction) (length : Nat) : Prop where
  /-- The candidates of the shorter payload come first. -/
  kept : e.candidates.map Candidate.piece <+: e'.candidates.map Candidate.piece
  /-- Those behind them reach beyond it. -/
  beyond : ∀ d ∈ e'.candidates.drop e.candidates.length, length < d.stop

variable {anchors : List Anchor} {front rest : Bytes} {choice choice' : Rule.Choice}
  {cuts more : List Sighting} {remark remark' : Option Remark}

/-- A window inside the front of a bare payload is the same piece of both. -/
theorem piece_cut_append {s : Sighting} (hfront : Envelope.isWrapped front = false)
    (hwhole : Envelope.isWrapped (front ++ rest) = false) (hend : s.windowEnd ≤ front.length) :
    (cut choice' (Envelope.strip (front ++ rest)) s).piece =
      (cut choice (Envelope.strip front) s).piece := by
  rw [Envelope.strip_of_not_isWrapped hfront, Envelope.strip_of_not_isWrapped hwhole]
  simp only [Candidate.piece, cut, Envelope.Stripped.coreOffset, Bytes.slice_append_of_le hend]

/-- The scan of a bare payload is continued by a scan that cuts the same windows and then some that reach
beyond it. -/
theorem continues_ofScan (hfront : Envelope.isWrapped front = false)
    (hwhole : Envelope.isWrapped (front ++ rest) = false) (h : Scanned anchors front 0 cuts remark)
    (h' : Scanned anchors (front ++ rest) 0 (cuts ++ more) remark')
    (hmore : ∀ s ∈ more, front.length < s.windowEnd) :
    (ofScan choice' (front ++ rest) (cuts ++ more) remark').Continues (ofScan choice front cuts remark)
      front.length := by
  have hsame : cuts.map (fun s => (cut choice' (Envelope.strip (front ++ rest)) s).piece) =
      cuts.map (fun s => (cut choice (Envelope.strip front) s).piece) := by
    refine List.map_congr_left fun s hs => ?_
    obtain ⟨-, -, -, hend⟩ := h.of_mem hs
    exact piece_cut_append hfront hwhole hend
  have hcore := Envelope.core_of_not_wrapped ((Envelope.strip_wrapped (front ++ rest)).trans hwhole)
  constructor
  · simp only [ofScan, List.map_map, List.map_append, Function.comp_def, hsame]
    exact List.prefix_append _ _
  · intro d hd
    simp only [ofScan, List.length_map, List.map_append] at hd
    rw [List.drop_left' (List.length_map _)] at hd
    obtain ⟨s, hs, rfl⟩ := List.mem_map.1 hd
    rw [← hcore] at h'
    have hstop := (h'.cut_inside choice' (List.mem_append_right cuts hs)).1
    rw [hstop]
    exact Nat.lt_add_left _ (hmore s hs)

end Extraction

namespace Config

variable {c : Config} {front rest : Bytes} {choice choice' : Rule.Choice}

/-- **Truncation never changes candidates that are complete already.** If every window has room for every
pattern, the candidates that a scan cuts from a bare payload come first, as they are, among those that a
scan cuts from a longer one, and the others reach beyond the shorter payload. A payload in memory is always
shorter than the greatest position. -/
theorem extract_append (hroom : Anchor.RoomForAll c.anchors)
    (hlength : front.length < Anchor.greatestPosition) (hfront : (Envelope.strip front).wrapped = false)
    (hwhole : (Envelope.strip (front ++ rest)).wrapped = false)
    (hchoice : c.rules.ruleFor front.length = .ok choice) (hrule : choice.rule = .multiFrameScan)
    (hchoice' : c.rules.ruleFor (front ++ rest).length = .ok choice')
    (hrule' : choice'.rule = .multiFrameScan) :
    ∃ e e', c.extract front = .ok e ∧ c.extract (front ++ rest) = .ok e' ∧
      e'.Continues e front.length := by
  obtain ⟨cuts, remark, h⟩ : ∃ cuts remark, Extraction.Scanned c.anchors front 0 cuts remark :=
    ⟨_, _, Extraction.scanned_scanFrom c.anchors front 0⟩
  obtain ⟨more, remark', h', hmore⟩ := h.append_right hroom hlength rest
  have hextract := extract_of_scanned hchoice hrule ((Envelope.core_of_not_wrapped hfront).symm ▸ h)
  have hextract' := extract_of_scanned hchoice' hrule' ((Envelope.core_of_not_wrapped hwhole).symm ▸ h')
  rw [Envelope.strip_wrapped] at hfront hwhole
  exact ⟨_, _, hextract, hextract', Extraction.continues_ofScan hfront hwhole h h' hmore⟩

/-- A core of `nested` that is cut off inside the longer anchor. -/
def nestedFront : Bytes :=
  [0x00, 0x0B, 0x44, 0x0B, 0x0B, 0, 0, 0, 0, 0, 0, 0, 0, 0x0B, 0x0B, 0x44, 0, 0, 0, 0, 0, 0x11, 0x0B]

/-- The bytes that have been cut off. -/
def nestedRest : Bytes := [0x44, 0x0B, 0, 0, 0, 0, 0, 0, 0, 0, 0x0B]

theorem extract_append_nested :
    nested.IsValid ∧ ∃ e e', nested.extract nestedFront = .ok e ∧
      nested.extract (nestedFront ++ nestedRest) = .ok e' ∧ e'.Continues e nestedFront.length :=
  ⟨by decide, extract_append (by decide) (by decide) (by decide) (by decide)
    (show nested.rules.ruleFor nestedFront.length = .ok ⟨.fallback, .multiFrameScan⟩ by decide) rfl
    (show nested.rules.ruleFor (nestedFront ++ nestedRest).length = .ok ⟨.fallback, .multiFrameScan⟩ by
      decide) rfl⟩

/-- A pattern that is longer than the window of an anchor it begins with. -/
def overhanging : Config :=
  { Config.standard with
    anchors := [⟨[6, 1, 2, 3, 4, 5, 6, 7], .full, 14⟩, ⟨[6], .compact, 7⟩]
    rules := RuleTable.empty.withFallback (some .multiFrameScan) }

/-- There the last byte of the pattern takes away the window that is cut without it. -/
example :
    overhanging.IsValid ∧
      (overhanging.extract [6, 1, 2, 3, 4, 5, 6]).toOption.map (·.candidates.map (·.bytes)) =
        some [[6, 1, 2, 3, 4, 5, 6]] ∧
      (overhanging.extract [6, 1, 2, 3, 4, 5, 6, 7]).toOption.map (·.candidates.map (·.bytes)) =
        some [] := by
  decide +kernel

end Config

end MeterBridge
