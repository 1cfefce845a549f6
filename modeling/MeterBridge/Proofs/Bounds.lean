import MeterBridge.Proofs.Extraction
import MeterBridge.Proofs.Rule
import MeterBridge.Proofs.Window

/-!
# Bounds on what is cut

A configuration is checked once; `extract_keepsBounds` says what the check guarantees of every payload
afterwards. Rows and the fallback come to it by different ways. Whatever trims is a row, and a row has
been compared with its length. A single frame is not empty because there is something in every envelope
and an anchor in what is taken without one, so it does not matter how short a core the rule allows. The
windows of a scan are those of usable anchors, which bounds their length, their number, and how far
behind the payload a window can end.
-/

namespace MeterBridge

open Anchor (Sighting)

variable {c : Config} {payload : Bytes} {e : Extraction} {anchors : List Anchor}
  {choice : Rule.Choice} {d : Candidate}

namespace Extraction

/-- No rule cuts an empty candidate, whatever its parameters are. -/
theorem ne_nil_of_mem_apply (hd : d ∈ (apply anchors choice (Envelope.strip payload)).1) :
    d.bytes ≠ [] := by
  rw [apply] at hd
  split at hd
  · next leastCore _ =>
    rw [singleFrame_fst] at hd
    split at hd
    · next htaken =>
      rw [List.mem_singleton.1 hd]
      rcases htaken.2 with hwrapped | hoccurs
      · exact List.ne_nil_of_length_pos (Envelope.length_core_of_wrapped hwrapped).1
      · obtain ⟨a, -, i, hai⟩ := Anchor.occursIn_iff.1 hoccurs
        exact List.ne_nil_of_length_pos (Nat.zero_lt_of_lt hai.lt_length)
    · cases hd
  · rw [Envelope.strip_payload] at hd
    obtain ⟨hlong, rfl⟩ := eq_of_mem_offsetTrim hd
    refine List.ne_nil_of_length_pos ?_
    rw [Bytes.length_slice_of_le (Nat.sub_le _ _)]
    omega
  · obtain ⟨s, hs, rfl⟩ := List.mem_map.1 hd
    obtain ⟨-, -, hlt, hend⟩ :=
      (scanned_scanFrom anchors (Envelope.strip payload).core 0).of_mem hs
    refine List.ne_nil_of_length_pos ?_
    rw [length_cut_bytes hend]
    omega

/-- A trim that leaves something does not give up. -/
theorem offsetTrim_snd_ne {leading trailing : Nat} (hlong : leading + trailing < payload.length) :
    (offsetTrim anchors choice payload leading trailing).2 ≠ some .trimmedAway := by
  dsimp only [offsetTrim]
  rw [if_neg (Nat.not_le.2 hlong)]
  split <;> simp

/-- What the check of a configuration guarantees of an extraction. -/
structure KeepsBounds (c : Config) (payload : Bytes) (e : Extraction) : Prop where
  /-- A rule that trims is the row of this length and leaves something, so it never gives up. -/
  trim : ∀ leading trailing, e.choice.rule = .offsetTrim leading trailing →
    e.choice.source = .row payload.length ∧ leading.toNat + trailing.toNat < payload.length ∧
      e.remark ≠ some .trimmedAway
  /-- No candidate is empty, whichever rule has cut it. -/
  nonempty : ∀ d ∈ e.candidates, d.bytes ≠ []
  /-- A window has room for its anchor and the address, and is no longer than a telegram. -/
  window : e.choice.rule = .multiFrameScan → ∀ d ∈ e.candidates, ∃ s : Sighting,
    s.IsFirstListed c.anchors (Envelope.strip payload).core ∧
      d.offset = (Envelope.strip payload).coreOffset + s.offset ∧ d.kind = s.anchor.kind ∧
        s.anchor.pattern.length + 6 ≤ d.bytes.length ∧ d.bytes.length ≤ 256
  /-- There are no more windows than the core has room for. -/
  few : e.choice.rule = .multiFrameScan →
    e.candidates.length ≤ (Envelope.strip payload).core.length / 7
  /-- Wherever an anchor is sought, the end of its window is far from the greatest position. -/
  reach : payload.length < 2 ^ 63 → ∀ start s,
    Anchor.first? c.anchors (Envelope.strip payload).core start = some s →
      s.windowEnd = s.offset + s.anchor.window.toNat ∧ s.windowEnd < Anchor.greatestPosition

section Usable

variable (husable : ∀ a ∈ anchors, a.IsUsable)

include husable

/-- A core has room for one usable window in seven bytes. -/
theorem Scanned.length_le_div {core : Bytes} {cuts : List Sighting} {remark : Option Remark}
    (h : Scanned anchors core 0 cuts remark) (hlength : core.length < Anchor.greatestPosition) :
    cuts.length ≤ core.length / 7 := by
  have hseven : ∀ s ∈ cuts, s.offset + 7 ≤ s.windowEnd := by
    intro s hs
    obtain ⟨hlisted, -, hlt, -⟩ := h.of_mem hs
    have hwindow : 6 < s.anchor.window.toNat := (husable _ hlisted.mem).wire_lt_window
    have hsub := h.windowEnd_sub hlength hs
    omega
  rw [Nat.le_div_iff_mul_le (by omega), Nat.mul_comm]
  exact h.mul_length_le hseven

/-- The window of a usable anchor ends soon behind its place. -/
theorem windowEnd_eq_of_first? {core : Bytes} {start : Nat} {s : Sighting}
    (hs : Anchor.first? anchors core start = some s) (hlength : core.length < 2 ^ 63) :
    s.windowEnd = s.offset + s.anchor.window.toNat ∧ s.windowEnd < Anchor.greatestPosition := by
  have hfirst := Anchor.first?_eq_some_iff.1 hs
  have hlt := hfirst.occurs.lt_length
  have hwindow : s.anchor.window.toNat ≤ 256 := (husable _ hfirst.mem).window_le
  have hgreatest : Anchor.greatestPosition = 2 ^ 64 - 1 := rfl
  rw [Sighting.windowEnd]
  omega

end Usable

end Extraction

namespace Config

/-- The windows of a scan by usable anchors keep within bounds. -/
theorem window_of_isExactScan (hc : c.IsValid)
    (h : e.IsExactScan c.anchors (Envelope.strip payload)) (hd : d ∈ e.candidates) :
    ∃ s : Sighting, s.IsFirstListed c.anchors (Envelope.strip payload).core ∧
      d.offset = (Envelope.strip payload).coreOffset + s.offset ∧ d.kind = s.anchor.kind ∧
        s.anchor.pattern.length + 6 ≤ d.bytes.length ∧ d.bytes.length ≤ 256 := by
  obtain ⟨s, hlisted, hoffset, hlength, hkind⟩ := h.anchored d hd
  have husable := hc.usable hlisted.mem
  rw [hlength]
  exact ⟨s, hlisted, hoffset, hkind, husable.room, husable.window_le⟩

/-- **Bounds**: what is cut under a valid configuration is never empty and never too long, a trim always
leaves something, and no position comes near the greatest one. A payload in memory is always shorter than
the greatest position. -/
theorem extract_keepsBounds (hc : c.IsValid) (hlength : payload.length < Anchor.greatestPosition)
    (h : c.extract payload = .ok e) : e.KeepsBounds c payload := by
  have hcore := Envelope.coreOffset_add_length_le payload
  have husable : ∀ a ∈ c.anchors, a.IsUsable := fun a => hc.usable
  have hscanned := Extraction.scanned_scanFrom c.anchors (Envelope.strip payload).core 0
  obtain ⟨choice, hchoice, he⟩ := extract_eq_ok_iff.1 h
  have hscan : choice.rule = .multiFrameScan →
      e = .ofScan choice payload (Extraction.scanFrom c.anchors (Envelope.strip payload).core 0).cuts
        (Extraction.scanFrom c.anchors (Envelope.strip payload).core 0).remark := fun hrule =>
    Except.ok.inj (h.symm.trans (extract_of_scanned hchoice hrule hscanned))
  have hrule_eq : e.choice = choice := by rw [he]
  refine ⟨fun leading trailing hrule => ?_, fun d hd => ?_, fun hrule d hd => ?_, fun hrule => ?_,
    fun hmemory start s hs => Extraction.windowEnd_eq_of_first? husable hs (by omega)⟩
  · rw [hrule_eq] at hrule ⊢
    obtain ⟨hsource, hlong⟩ := RuleTable.row_of_ruleFor hc.rules hchoice hrule
    refine ⟨hsource, hlong, ?_⟩
    rw [he]
    simp only [Extraction.apply, hrule, Envelope.strip_payload]
    exact Extraction.offsetTrim_snd_ne hlong
  · rw [he] at hd
    exact Extraction.ne_nil_of_mem_apply hd
  · rw [hrule_eq] at hrule
    refine window_of_isExactScan hc ?_ hd
    rw [hscan hrule]
    exact hscanned.isExactScan choice husable hlength
  · rw [hrule_eq] at hrule
    rw [hscan hrule]
    simp only [Extraction.ofScan, List.length_map]
    exact hscanned.length_le_div husable (by omega)

/-- The standard configuration, but with a fallback for single frames of any length. -/
def permissive : Config :=
  Config.standard.withRules (RuleTable.standard.withFallback (some (.singleFrame 0)))

theorem extract_keepsBounds_permissive :
    permissive.IsValid ∧
      (∃ e, permissive.extract [] = .ok e ∧ e.KeepsBounds permissive []) ∧
      ∃ e, permissive.extract (Envelope.wrap [0x25]) = .ok e ∧
        e.KeepsBounds permissive (Envelope.wrap [0x25]) :=
  ⟨by decide, ⟨_, rfl, extract_keepsBounds (by decide) (by decide) rfl⟩,
    ⟨_, rfl, extract_keepsBounds (by decide) (by decide) rfl⟩⟩

end Config

end MeterBridge
