import MeterBridge.Proofs.Extraction
import MeterBridge.Proofs.Rule
import Mathlib.Data.List.Nodup
import Mathlib.Data.List.Perm.Subperm

/-!
# Rows with room

The check of a rule table looks at each row alone: a trim is compared with the length of its row, and a
rule for single frames must ask for a core at all. What a rule needs beside that is compared with no
length, so there are valid tables with rows by which no notification is ever cut
(`not_isFruitful_cramped`). A row is fruitful if and only if it has room (`hasRoom_decides`):

* for a single frame, room for the core that is asked for, in an envelope or around an anchor,
* for a trim, room for an anchor in what is left,
* for a scan, room for the window of an anchor that stands out among those listed before it.

An anchor that begins with another one listed before it is never selected. Nor is one whose pattern is
continued, by whatever byte comes next, to a pattern listed before it. The latter takes as many anchors as
there are bytes, and with so many an anchor may still be selected at the end of a core; `StandsOut` does
not see that.
-/

namespace MeterBridge

open Anchor (Sighting)

variable {c : Config} {payload : Bytes} {length : Nat} {rule : Rule} {choice : Rule.Choice}
  {anchors : List Anchor}

/-! ### Payloads that are no envelopes -/

/-- An envelope ends with the last byte of its closing delimiter. -/
theorem Envelope.isWrapped_eq_false_of_getLast? (h : payload.getLast? ≠ some 0x0F) :
    isWrapped payload = false := by
  rw [Bool.eq_false_iff]
  intro hwrapped
  obtain ⟨content, -, rfl⟩ := isWrapped_iff.1 hwrapped
  simp [wrap, closing] at h

/-- Bytes with as many zeros behind them as fill up the length. -/
def Bytes.padTo (length : Nat) (bytes : Bytes) : Bytes :=
  bytes ++ List.replicate (length - bytes.length) 0

namespace Bytes

variable {bytes : Bytes}

theorem length_padTo (h : bytes.length ≤ length) : (bytes.padTo length).length = length := by
  rw [padTo, List.length_append, List.length_replicate]
  omega

theorem prefix_padTo (length : Nat) : bytes <+: bytes.padTo length := List.prefix_append _ _

/-- Bytes that are filled up with zeros are no envelope. -/
theorem isWrapped_padTo (h : bytes.length < length) : Envelope.isWrapped (bytes.padTo length) = false := by
  obtain ⟨n, hn⟩ := Nat.exists_eq_add_of_lt h
  refine Envelope.isWrapped_eq_false_of_getLast? ?_
  rw [padTo, hn, show bytes.length + n + 1 - bytes.length = n + 1 by omega, List.replicate_succ',
    ← List.append_assoc, List.getLast?_concat]
  simp

end Bytes

/-! ### Anchors that can be selected -/

/-- Bytes behind the pattern of the anchor, inside so many bytes, tell it from the anchors that are listed
before it: no pattern of theirs begins with the two, or is the beginning of them. -/
def Anchor.StandsOut (anchors : List Anchor) (place length : Nat) (a : Anchor) : Prop :=
  ∃ tail : Bytes, (a.pattern ++ tail).length < length ∧ ∀ i a', anchors[i]? = some a' → i < place →
    ¬ a'.pattern <+: a.pattern ++ tail ∧ ¬ a.pattern ++ tail <+: a'.pattern

/-- Fewer than 256 bytes leave one out. -/
theorem Bytes.exists_not_mem {bytes : Bytes} (h : bytes.length < 256) : ∃ b : UInt8, b ∉ bytes := by
  refine Classical.byContradiction fun hall => ?_
  have hnodup : ((List.range 256).map UInt8.ofNat).Nodup := by
    refine List.Nodup.map_on (fun i hi j hj hij => ?_) List.nodup_range
    rw [← UInt8.toNat_ofNat_of_lt' (List.mem_range.1 hi), hij,
      UInt8.toNat_ofNat_of_lt' (List.mem_range.1 hj)]
  have hsubset : (List.range 256).map UInt8.ofNat ⊆ bytes := fun b _ =>
    Classical.not_not.1 fun hb => hall ⟨b, hb⟩
  have hle := (hnodup.subperm hsubset).length_le
  rw [List.length_map, List.length_range] at hle
  omega

/-- Among at most as many anchors as there are bytes, one byte makes an anchor stand out that begins with
none of those before it. -/
theorem Anchor.standsOut_of_length_le {place : Nat} {a : Anchor} (hlength : anchors.length ≤ 256)
    (ha : anchors[place]? = some a) (hroom : a.pattern.length + 1 < length)
    (h : ∀ i a', anchors[i]? = some a' → i < place → ¬ a'.pattern <+: a.pattern) :
    a.StandsOut anchors place length := by
  -- The bytes by which the anchors before it may continue its pattern.
  obtain ⟨b, hb⟩ : ∃ b : UInt8,
      b ∉ (anchors.take place).filterMap fun a' => a'.pattern[a.pattern.length]? := by
    refine Bytes.exists_not_mem (Nat.lt_of_le_of_lt (List.length_filterMap_le _ _) ?_)
    have hplace := (List.getElem?_eq_some_iff.1 ha).1
    rw [List.length_take]
    omega
  refine ⟨[b], by rwa [List.length_append, List.length_singleton], fun i a' hi hlt => ?_⟩
  have hnext : a'.pattern[a.pattern.length]? ≠ some b := by
    intro hnext
    have hmem : a' ∈ anchors.take place :=
      List.mem_of_getElem? (by rw [List.getElem?_take_of_lt hlt]; exact hi)
    exact hb (List.mem_filterMap.2 ⟨a', hmem, hnext⟩)
  have hlast : (a.pattern ++ [b])[a.pattern.length]? = some b := List.getElem?_concat_length
  refine ⟨fun hprefix => ?_, fun hprefix => ?_⟩
  · rcases List.prefix_concat_iff.1 hprefix with heq | hprefix
    · exact hnext (heq ▸ hlast)
    · exact h i a' hi hlt hprefix
  · obtain ⟨rest, hrest⟩ := hprefix
    refine hnext ?_
    rw [← hrest, List.getElem?_append_left (by simp)]
    exact hlast

/-- An anchor that stands out is selected in data that begin with its pattern and those bytes. -/
theorem Anchor.isFirstFrom_of_prefix {place : Nat} {a : Anchor} {tail data : Bytes}
    (ha : anchors[place]? = some a) (hpattern : a.pattern ≠ [])
    (htail : ∀ i a', anchors[i]? = some a' → i < place →
      ¬ a'.pattern <+: a.pattern ++ tail ∧ ¬ a.pattern ++ tail <+: a'.pattern)
    (hdata : a.pattern ++ tail <+: data) :
    Sighting.IsFirstFrom { offset := 0, index := place, anchor := a } anchors data 0 := by
  refine ⟨⟨ha, ⟨hpattern, Bytes.occursAt_zero.2 ((List.prefix_append _ _).trans hdata)⟩, ?_⟩,
    Nat.le_refl 0, fun _ _ i _ _ => Nat.zero_le i⟩
  intro i a' hi ha'
  refine Nat.le_of_not_lt fun hlt => ?_
  obtain ⟨hshorter, hlonger⟩ := htail i a' hi hlt
  rcases List.prefix_or_prefix_of_prefix (Bytes.occursAt_zero.1 ha'.2) hdata with h | h
  · exact hshorter h
  · exact hlonger h

/-! ### Room -/

namespace Config

/-- The row for this length is fruitful: by its rule some payload is cut. -/
def IsFruitful (c : Config) (length : Nat) (rule : Rule) : Prop :=
  ∃ payload e, payload.length = length ∧ c.extract payload = .ok e ∧
    e.choice = { source := .row length, rule } ∧ e.candidates ≠ []

/-- Notifications of this length have room for what the rule cuts. -/
inductive HasRoom (c : Config) (length : Nat) : Rule → Prop where
  /-- The core that is asked for fits into an envelope. -/
  | enveloped {leastCore : UInt64} : leastCore.toNat + 8 ≤ length →
      HasRoom c length (.singleFrame leastCore)
  /-- There may be a core without an envelope, since an anchor fits into it and does not make it one. -/
  | bare {leastCore : UInt64} {a : Anchor} : a ∈ c.anchors → leastCore.toNat ≤ length →
      a.pattern.length < length ∨ a.pattern.length = length ∧ Envelope.isWrapped a.pattern = false →
        HasRoom c length (.singleFrame leastCore)
  /-- An anchor fits into what trimming leaves. -/
  | trimmed {leading trailing : UInt64} {a : Anchor} : a ∈ c.anchors →
      leading.toNat + trailing.toNat + a.pattern.length ≤ length →
        HasRoom c length (.offsetTrim leading trailing)
  /-- The window of an anchor that stands out fits. -/
  | scanned {place : Nat} {a : Anchor} : c.anchors[place]? = some a → a.window.toNat ≤ length →
      a.StandsOut c.anchors place length → HasRoom c length .multiFrameScan

/-- A fruitful rule cuts something out of a payload of its length. -/
theorem exists_apply_of_isFruitful (h : c.IsFruitful length rule) :
    ∃ payload : Bytes, payload.length = length ∧
      (Extraction.apply c.anchors { source := .row length, rule } (Envelope.strip payload)).1 ≠ [] := by
  obtain ⟨payload, e, hlength, hextract, hchoice, hne⟩ := h
  obtain ⟨choice, -, rfl⟩ := extract_eq_ok_iff.1 hextract
  simp only at hchoice hne
  rw [hchoice] at hne
  exact ⟨payload, hlength, hne⟩

section Fruitful

variable (hrow : c.rules.get? length = some rule)

include hrow

/-- A row is fruitful if its rule cuts something out of a payload of its length. -/
theorem isFruitful_of_apply (hlength : payload.length = length)
    (h : (Extraction.apply c.anchors { source := .row length, rule } (Envelope.strip payload)).1 ≠ []) :
    c.IsFruitful length rule := by
  refine ⟨payload, _, hlength, extract_eq_ok_iff.2 ⟨{ source := .row length, rule }, ?_, rfl⟩, rfl, h⟩
  rw [hlength]
  exact RuleTable.ruleFor_eq_ok_iff.2 (.inl ⟨hrow, rfl⟩)

variable (hc : c.IsValid)

include hc

/-- A core in an envelope is always taken. -/
theorem isFruitful_enveloped {leastCore : UInt64} (hrule : rule = .singleFrame leastCore)
    (hroom : leastCore.toNat + 8 ≤ length) : c.IsFruitful length rule := by
  subst hrule
  have hpos := RuleTable.leastCore_pos_of_get? hc.rules hrow
  have hcore : (List.replicate (length - 8) 0 : Bytes) ≠ [] := by
    rw [Ne, List.replicate_eq_nil_iff]
    omega
  have hlength : (Envelope.wrap (List.replicate (length - 8) 0)).length = length := by
    simp only [Envelope.wrap, Envelope.opening, Envelope.closing, List.length_append,
      List.length_replicate, List.length_cons, List.length_nil]
    omega
  refine isFruitful_of_apply hrow hlength ?_
  simp only [Extraction.apply, Extraction.singleFrame_fst, Envelope.strip_wrap hcore]
  rw [if_pos ⟨by rw [List.length_replicate]; omega, .inl trivial⟩]
  exact List.cons_ne_nil _ _

/-- A core without an envelope is taken if it begins with an anchor. -/
theorem isFruitful_bare {leastCore : UInt64} {a : Anchor} (hrule : rule = .singleFrame leastCore)
    (ha : a ∈ c.anchors) (hlong : leastCore.toNat ≤ length)
    (hroom : a.pattern.length < length ∨
      a.pattern.length = length ∧ Envelope.isWrapped a.pattern = false) :
    c.IsFruitful length rule := by
  subst hrule
  have hle : a.pattern.length ≤ length := by omega
  have hbare : Envelope.isWrapped (a.pattern.padTo length) = false := by
    rcases hroom with hlt | ⟨rfl, hpattern⟩
    · exact Bytes.isWrapped_padTo hlt
    · simpa [Bytes.padTo] using hpattern
  have hoccurs : Anchor.occursIn c.anchors (a.pattern.padTo length) = true :=
    Anchor.occursIn_iff.2 ⟨a, ha, 0, (hc.usable ha).pattern_ne_nil,
      Bytes.occursAt_zero.2 (Bytes.prefix_padTo length)⟩
  refine isFruitful_of_apply hrow (Bytes.length_padTo hle) ?_
  simp only [Extraction.apply, Extraction.singleFrame_fst, Envelope.strip_of_not_isWrapped hbare]
  rw [if_pos ⟨by rw [Bytes.length_padTo hle]; exact hlong, .inr hoccurs⟩]
  exact List.cons_ne_nil _ _

/-- What trimming leaves is taken if it begins with an anchor. -/
theorem isFruitful_trimmed {leading trailing : UInt64} {a : Anchor}
    (hrule : rule = .offsetTrim leading trailing) (ha : a ∈ c.anchors)
    (hroom : leading.toNat + trailing.toNat + a.pattern.length ≤ length) :
    c.IsFruitful length rule := by
  subst hrule
  have hlong := RuleTable.trim_lt_of_get? hc.rules hrow
  have hlength :
      (Bytes.padTo length (List.replicate leading.toNat 0 ++ a.pattern)).length = length := by
    refine Bytes.length_padTo ?_
    rw [List.length_append, List.length_replicate]
    omega
  have hoccurs : Anchor.occursIn c.anchors
      ((Bytes.padTo length (List.replicate leading.toNat 0 ++ a.pattern)).slice leading.toNat
        (length - trailing.toNat)) = true := by
    refine Anchor.occursIn_iff.2 ⟨a, ha, 0, (hc.usable ha).pattern_ne_nil,
      Bytes.occursAt_slice_zero.2 ⟨?_, by omega⟩⟩
    rw [Bytes.occursAt_iff_drop, Bytes.padTo, List.append_assoc,
      List.drop_left' List.length_replicate]
    exact List.prefix_append _ _
  refine isFruitful_of_apply hrow hlength ?_
  simp only [Extraction.apply, Envelope.strip_payload]
  rw [Extraction.offsetTrim_fst _ _ (by rw [hlength]; exact hlong), hlength, if_pos hoccurs]
  exact List.cons_ne_nil _ _

/-- The window of an anchor that stands out is cut where it stands in front. -/
theorem isFruitful_scanned {place : Nat} {a : Anchor} (hrule : rule = .multiFrameScan)
    (ha : c.anchors[place]? = some a) (hroom : a.window.toNat ≤ length)
    (hstands : a.StandsOut c.anchors place length) : c.IsFruitful length rule := by
  subst hrule
  obtain ⟨tail, hlt, htail⟩ := hstands
  have husable := hc.usable (List.mem_of_getElem? ha)
  have hwindow : 0 < a.window.toNat := Nat.zero_lt_of_lt husable.wire_lt_window
  have hlength := Bytes.length_padTo (Nat.le_of_lt hlt)
  have hfirst := Anchor.isFirstFrom_of_prefix ha husable.pattern_ne_nil htail
    (Bytes.prefix_padTo length)
  have hend : Sighting.windowEnd { offset := 0, index := place, anchor := a } = a.window.toNat := by
    rw [Sighting.windowEnd, Nat.zero_add]
    exact Nat.min_eq_left (Nat.le_pred_of_lt a.window.toNat_lt)
  refine isFruitful_of_apply hrow hlength ?_
  simp only [Extraction.apply, Extraction.multiFrameScan,
    Envelope.strip_of_not_isWrapped (Bytes.isWrapped_padTo hlt), Ne, List.map_eq_nil_iff]
  rw [Extraction.scanFrom_of_isFirstFrom hfirst, hend, hlength, if_neg (Nat.not_lt.2 hroom),
    if_neg (Nat.not_le.2 hwindow)]
  exact List.cons_ne_nil _ _

/-- Rows with room are fruitful. -/
theorem fruitful_of_hasRoom (h : c.HasRoom length rule) : c.IsFruitful length rule := by
  cases h with
  | enveloped hroom => exact isFruitful_enveloped hrow hc rfl hroom
  | bare ha hlong hroom => exact isFruitful_bare hrow hc rfl ha hlong hroom
  | trimmed ha hroom => exact isFruitful_trimmed hrow hc rfl ha hroom
  | scanned ha hroom hstands => exact isFruitful_scanned hrow hc rfl ha hroom hstands

end Fruitful

/-! ### Rows without room -/

/-- A core that is taken has room, in an envelope or around an anchor. -/
theorem hasRoom_singleFrame {leastCore : UInt64}
    (h : c.IsFruitful length (.singleFrame leastCore)) : c.HasRoom length (.singleFrame leastCore) := by
  obtain ⟨payload, rfl, hne⟩ := exists_apply_of_isFruitful h
  simp only [Extraction.apply, Extraction.singleFrame_fst] at hne
  obtain ⟨hlong, htaken⟩ := (ite_ne_right_iff.1 hne).1
  cases hwrapped : (Envelope.strip payload).wrapped with
  | true =>
    have hcore := (Envelope.length_core_of_wrapped hwrapped).2
    exact .enveloped (by omega)
  | false =>
    rw [Envelope.core_of_not_wrapped hwrapped] at hlong htaken
    rw [hwrapped, or_iff_right Bool.false_ne_true] at htaken
    obtain ⟨a, ha, i, hai⟩ := Anchor.occursIn_iff.1 htaken
    refine .bare ha hlong ?_
    rcases Nat.lt_or_ge a.pattern.length payload.length with hlt | hge
    · exact .inl hlt
    · -- The pattern takes up the payload, and that is no envelope.
      have hle := hai.add_length_le
      have hpattern : a.pattern = payload := by
        have hbegins := Bytes.occursAt_iff_drop.1 hai.2
        rw [show i = 0 by omega, List.drop_zero] at hbegins
        exact hbegins.eq_of_length (by omega)
      exact .inr ⟨by rw [hpattern], by rwa [hpattern, ← Envelope.strip_wrapped]⟩

section Room

variable (hc : c.IsValid)

include hc

/-- What trimming leaves has room for the anchor in it. -/
theorem hasRoom_offsetTrim {leading trailing : UInt64}
    (hrow : c.rules.get? length = some (.offsetTrim leading trailing))
    (h : c.IsFruitful length (.offsetTrim leading trailing)) :
    c.HasRoom length (.offsetTrim leading trailing) := by
  obtain ⟨payload, rfl, hne⟩ := exists_apply_of_isFruitful h
  have hlong := RuleTable.trim_lt_of_get? hc.rules hrow
  simp only [Extraction.apply, Envelope.strip_payload, Extraction.offsetTrim_fst _ _ hlong] at hne
  obtain ⟨a, ha, i, hai⟩ := Anchor.occursIn_iff.1 (ite_ne_right_iff.1 hne).1
  have hle := hai.add_length_le
  rw [Bytes.length_slice_of_le (Nat.sub_le _ _)] at hle
  exact .trimmed ha (by omega)

/-- A window that is cut fits, and its anchor stands out if there are not too many anchors. -/
theorem hasRoom_multiFrameScan (hanchors : c.anchors.length ≤ 256)
    (h : c.IsFruitful length .multiFrameScan) : c.HasRoom length .multiFrameScan := by
  obtain ⟨payload, rfl, hne⟩ := exists_apply_of_isFruitful h
  simp only [Extraction.apply, Extraction.multiFrameScan, Ne, List.map_eq_nil_iff] at hne
  obtain ⟨s, hs⟩ := List.exists_mem_of_ne_nil _ hne
  obtain ⟨hlisted, -, -, hend⟩ :=
    (Extraction.scanned_scanFrom c.anchors (Envelope.strip payload).core 0).of_mem hs
  have husable := hc.usable hlisted.mem
  have hwindow : s.anchor.window.toNat ≤ payload.length := by
    have hcore := Envelope.coreOffset_add_length_le payload
    have hle : s.anchor.window.toNat ≤ 256 := husable.window_le
    have hgreatest : Anchor.greatestPosition = 2 ^ 64 - 1 := rfl
    rw [Sighting.windowEnd] at hend
    omega
  have hpattern : s.anchor.pattern.length + 6 ≤ s.anchor.window.toNat := husable.room
  refine .scanned hlisted.listed hwindow
    (Anchor.standsOut_of_length_le hanchors hlisted.listed (by omega) fun i a hi hlt hbegins => ?_)
  -- An anchor before it with which its pattern begins would be selected in its place.
  have hoccurs : a.OccursAt (Envelope.strip payload).core s.offset :=
    ⟨(hc.usable (List.mem_of_getElem? hi)).pattern_ne_nil,
      Bytes.occursAt_iff_drop.2 (hbegins.trans (Bytes.occursAt_iff_drop.1 hlisted.occurs.2))⟩
  exact absurd (hlisted.least i a hi hoccurs) (Nat.not_le.2 hlt)

/-- Fruitful rows have room; for scans, if there are no more anchors than bytes. -/
theorem hasRoom_of_isFruitful (hrow : c.rules.get? length = some rule)
    (hanchors : rule = .multiFrameScan → c.anchors.length ≤ 256) (h : c.IsFruitful length rule) :
    c.HasRoom length rule := by
  cases rule with
  | singleFrame leastCore => exact hasRoom_singleFrame h
  | offsetTrim leading trailing => exact hasRoom_offsetTrim hc hrow h
  | multiFrameScan => exact hasRoom_multiFrameScan hc (hanchors rfl) h

/-- **Room decides**: a row of a valid configuration is fruitful if its notifications have room for what its
rule cuts, and only then. That a scan without room cuts nothing takes a list of no more anchors than there
are bytes. -/
theorem hasRoom_decides (hrow : c.rules.get? length = some rule) :
    (c.HasRoom length rule → c.IsFruitful length rule) ∧
      ((rule = .multiFrameScan → c.anchors.length ≤ 256) → c.IsFruitful length rule →
        c.HasRoom length rule) :=
  ⟨fruitful_of_hasRoom hrow hc, hasRoom_of_isFruitful hc hrow⟩

end Room

/-- Each of the standard rules has room in a row of the standard table; that a core of 49 bytes has, we see
from a payload. -/
theorem hasRoom_decides_standard :
    standard.IsFruitful 244 .multiFrameScan ∧ standard.IsFruitful 96 (.offsetTrim 54 4) ∧
      standard.HasRoom 70 (.singleFrame 49) := by
  have hc : standard.IsValid := by decide
  have hfull : standard.anchors[1]? = some Anchor.full := rfl
  have hstands : Anchor.full.StandsOut standard.anchors 1 244 := by
    refine ⟨[], by decide, fun i a hi hlt => ?_⟩
    obtain rfl : i = 0 := by omega
    obtain rfl : Anchor.compact = a := Option.some.inj hi
    decide
  refine ⟨(hasRoom_decides hc rfl).1 (.scanned hfull (by decide) hstands),
    (hasRoom_decides hc rfl).1 (.trimmed (List.mem_of_getElem? hfull) (by decide)),
    (hasRoom_decides hc rfl).2 (by simp) ?_⟩
  exact ⟨Envelope.wrap (List.replicate 62 0), _, by decide, rfl, by decide, by decide⟩

/-- The standard configuration with rows that have no room: for a core that is longer than the notification,
for the window of an anchor, and for an anchor in what trimming leaves. -/
def cramped : Config :=
  standard.withRules (.ofRows [(10, .singleFrame 11), (20, .multiFrameScan), (30, .offsetTrim 14 13)]
    (some .multiFrameScan))

/-- It is valid, and no notification is ever cut by these rows. -/
theorem not_isFruitful_cramped :
    cramped.IsValid ∧
      (cramped.rules.get? 10 = some (.singleFrame 11) ∧ ¬ cramped.IsFruitful 10 (.singleFrame 11)) ∧
      (cramped.rules.get? 20 = some .multiFrameScan ∧ ¬ cramped.IsFruitful 20 .multiFrameScan) ∧
      (cramped.rules.get? 30 = some (.offsetTrim 14 13) ∧
        ¬ cramped.IsFruitful 30 (.offsetTrim 14 13)) := by
  have hc : cramped.IsValid := by decide
  have hwindow : ∀ a ∈ cramped.anchors, ¬ a.window.toNat ≤ 20 := by decide
  have hpattern : ∀ a ∈ cramped.anchors, ¬ (14 : UInt64).toNat + (13 : UInt64).toNat +
      a.pattern.length ≤ 30 := by decide
  refine ⟨hc, ⟨rfl, fun h => ?_⟩, ⟨rfl, fun h => ?_⟩, ⟨rfl, fun h => ?_⟩⟩
  · cases hasRoom_of_isFruitful hc rfl (by simp) h with
    | enveloped hroom => exact absurd hroom (by decide)
    | bare _ hlong _ => exact absurd hlong (by decide)
  · cases hasRoom_of_isFruitful hc rfl (fun _ => by decide) h with
    | scanned ha hroom _ => exact hwindow _ (List.mem_of_getElem? ha) hroom
  · cases hasRoom_of_isFruitful hc rfl (by simp) h with
    | trimmed ha hroom => exact hpattern _ ha hroom

end Config

end MeterBridge
