import MeterBridge.Anchor
import MeterBridge.Proofs.Occurrence

/-!
# Sightings

What the searches for anchors find, said by where the anchors occur.

* `first?_eq_some_iff` — `first?` finds the leftmost occurrence of any anchor, not before the
  place from which it searches, and of the anchors that occur there the first in the list.
* `first?_eq_none_iff` — it finds nothing only if no anchor occurs from that place on.
* `leading?_eq_some_iff` — `leading?` finds the first anchor in the list that occurs at the front.

So the two searches agree wherever an anchor stands at the front of the data, and together they say what
occurs there and nothing else (`searches_exact`).
-/

namespace MeterBridge.Anchor

/-- The anchor occurs in the data at a position. An anchor without a pattern occurs nowhere. -/
def OccursAt (a : Anchor) (data : Bytes) (i : Nat) : Prop :=
  a.pattern ≠ [] ∧ a.pattern.OccursAt data i

instance (a : Anchor) (data : Bytes) (i : Nat) : Decidable (a.OccursAt data i) :=
  inferInstanceAs (Decidable (_ ∧ _))

/-- No anchor of the list occurs at `start` or behind it. -/
def NoneFrom (anchors : List Anchor) (data : Bytes) (start : Nat) : Prop :=
  ∀ a ∈ anchors, ∀ i, start ≤ i → ¬ a.OccursAt data i

/-- The anchor of the sighting occurs where the sighting says, and no anchor that is listed before
it does. -/
structure Sighting.IsFirstListed (s : Sighting) (anchors : List Anchor) (data : Bytes) : Prop where
  /-- The anchor is the one at this place of the list. -/
  listed : anchors[s.index]? = some s.anchor
  /-- It occurs there. -/
  occurs : s.anchor.OccursAt data s.offset
  /-- No anchor at an earlier place does. -/
  least : ∀ k a, anchors[k]? = some a → a.OccursAt data s.offset → s.index ≤ k

/-- The sighting is the leftmost one from `start` on, of the first anchor that occurs there. -/
structure Sighting.IsFirstFrom (s : Sighting) (anchors : List Anchor) (data : Bytes) (start : Nat) :
    Prop extends s.IsFirstListed anchors data where
  /-- It is not before `start`. -/
  start_le : start ≤ s.offset
  /-- No anchor occurs in between. -/
  leftmost : ∀ a ∈ anchors, ∀ i, start ≤ i → a.OccursAt data i → s.offset ≤ i

/-! ### One anchor -/

variable {a : Anchor} {anchors : List Anchor} {data : Bytes} {start i : Nat} {s t : Sighting}

theorem OccursAt.add_length_le (h : a.OccursAt data i) : i + a.pattern.length ≤ data.length :=
  h.2.add_length_le h.1

/-- An anchor occurs inside the data. -/
theorem OccursAt.lt_length (h : a.OccursAt data i) : i < data.length := by
  have hle := h.add_length_le
  have hpos := List.length_pos_iff.2 h.1
  omega

/-- The data begin with an anchor if it occurs at the front. -/
theorem isLeading_iff : a.isLeading data = true ↔ a.OccursAt data 0 := by
  simp [isLeading, OccursAt, Bytes.occursAt_zero]

theorem find?_eq_some_iff :
    a.find? data start = some i ↔
      start ≤ i ∧ a.OccursAt data i ∧ ∀ j, start ≤ j → j < i → ¬ a.OccursAt data j := by
  rw [find?]
  split
  · next hempty => simp [OccursAt, List.isEmpty_iff.1 hempty]
  · next hempty =>
    have hne : a.pattern ≠ [] := fun h => hempty (List.isEmpty_iff.2 h)
    rw [Bytes.findFrom?_eq_some_iff hne]
    constructor
    · rintro ⟨k, rfl, hk, hfirst⟩
      refine ⟨Nat.le_add_right _ _, ⟨hne, Bytes.occursAt_drop.1 hk⟩, fun j hstart hj h => ?_⟩
      obtain ⟨m, rfl⟩ := Nat.exists_eq_add_of_le hstart
      exact hfirst m (by omega) (Bytes.occursAt_drop.2 h.2)
    · rintro ⟨hstart, hi, hfirst⟩
      obtain ⟨k, rfl⟩ := Nat.exists_eq_add_of_le hstart
      refine ⟨k, rfl, Bytes.occursAt_drop.2 hi.2, fun j hj h => ?_⟩
      exact hfirst (start + j) (Nat.le_add_right _ _) (by omega) ⟨hne, Bytes.occursAt_drop.1 h⟩

theorem find?_eq_none_iff :
    a.find? data start = none ↔ ∀ i, start ≤ i → ¬ a.OccursAt data i := by
  rw [find?]
  split
  · next hempty => simp [OccursAt, List.isEmpty_iff.1 hempty]
  · next hempty =>
    have hne : a.pattern ≠ [] := fun h => hempty (List.isEmpty_iff.2 h)
    rw [Bytes.findFrom?_eq_none_iff hne]
    constructor
    · intro h i hstart hi
      obtain ⟨k, rfl⟩ := Nat.exists_eq_add_of_le hstart
      exact h k (Bytes.occursAt_drop.2 hi.2)
    · exact fun h k hk => h (start + k) (Nat.le_add_right _ _) ⟨hne, Bytes.occursAt_drop.1 hk⟩

/-! ### The leftmost of several sightings -/

theorem leftmost?_eq_none_iff {ss : List Sighting} : leftmost? ss = none ↔ ss = [] := by
  cases ss with
  | nil => simp [leftmost?]
  | cons t rest =>
    rw [leftmost?]
    split
    · simp
    · split <;> simp

/-- All sightings in front of the leftmost one are to the right of it, and none behind it is to the
left of it. -/
theorem append_of_leftmost? {ss : List Sighting} (h : leftmost? ss = some s) :
    ∃ before after, ss = before ++ s :: after ∧ (∀ t ∈ before, s.offset < t.offset) ∧
      ∀ t ∈ after, s.offset ≤ t.offset := by
  induction ss generalizing s with
  | nil => cases h
  | cons t rest ih =>
    rw [leftmost?] at h
    split at h
    · next hrest =>
      cases h
      rw [leftmost?_eq_none_iff.1 hrest]
      exact ⟨[], [], rfl, by simp, by simp⟩
    · next u hu =>
      obtain ⟨before, after, rfl, hbefore, hafter⟩ := ih hu
      split at h
      · next hlt =>
        cases h
        exact ⟨t :: before, after, rfl, List.forall_mem_cons.2 ⟨hlt, hbefore⟩, hafter⟩
      · next hle =>
        cases h
        refine ⟨[], before ++ u :: after, rfl, by simp, fun v hv => ?_⟩
        have htu := Nat.le_of_not_lt hle
        rcases List.mem_append.1 hv with hv | hv
        · exact Nat.le_of_lt (Nat.lt_of_le_of_lt htu (hbefore v hv))
        · rcases List.mem_cons.1 hv with rfl | hv
          · exact htu
          · exact Nat.le_trans htu (hafter v hv)

theorem offset_le_of_leftmost? {ss : List Sighting} (h : leftmost? ss = some s) {t : Sighting}
    (ht : t ∈ ss) : s.offset ≤ t.offset := by
  obtain ⟨before, after, rfl, hbefore, hafter⟩ := append_of_leftmost? h
  rcases List.mem_append.1 ht with ht | ht
  · exact Nat.le_of_lt (hbefore t ht)
  · rcases List.mem_cons.1 ht with rfl | ht
    · exact Nat.le_refl _
    · exact hafter t ht

/-! ### Several anchors -/

theorem mem_sightings_iff :
    s ∈ sightings anchors data start ↔
      anchors[s.index]? = some s.anchor ∧ s.anchor.find? data start = some s.offset := by
  simp only [sightings, List.mem_filterMap, Option.map_eq_some_iff, Prod.exists,
    List.mk_mem_zipIdx_iff_getElem?]
  constructor
  · rintro ⟨a, k, hlisted, offset, hfind, rfl⟩
    exact ⟨hlisted, hfind⟩
  · rintro ⟨hlisted, hfind⟩
    exact ⟨s.anchor, s.index, hlisted, s.offset, hfind, rfl⟩

/-- Sightings stand in the order of their anchors. -/
theorem pairwise_sightings (anchors : List Anchor) (data : Bytes) (start : Nat) :
    (sightings anchors data start).Pairwise (·.index < ·.index) := by
  have hzip : anchors.zipIdx.Pairwise (·.2 < ·.2) := by
    rw [← List.pairwise_map, List.zipIdx_map_snd]
    exact List.pairwise_lt_range'
  rw [sightings, List.pairwise_filterMap]
  refine hzip.imp fun {p q} hlt s hs t ht => ?_
  obtain ⟨_, _, rfl⟩ := Option.map_eq_some_iff.1 hs
  obtain ⟨_, _, rfl⟩ := Option.map_eq_some_iff.1 ht
  exact hlt

/-- An anchor that occurs somewhere has a first sighting, and that is not behind. -/
theorem exists_mem_sightings {k : Nat} (hk : anchors[k]? = some a) (hi : start ≤ i)
    (hai : a.OccursAt data i) :
    ∃ t ∈ sightings anchors data start, t.index = k ∧ t.offset ≤ i := by
  cases hfind : a.find? data start with
  | none => exact absurd hai (find?_eq_none_iff.1 hfind i hi)
  | some offset =>
    refine ⟨⟨offset, k, a⟩, mem_sightings_iff.2 ⟨hk, hfind⟩, rfl, ?_⟩
    exact Nat.le_of_not_lt fun hlt => (find?_eq_some_iff.1 hfind).2.2 i hi hlt hai

/-- What the search finds is the leftmost sighting of the first anchor that occurs there. -/
theorem isFirstFrom_of_first? (h : first? anchors data start = some s) :
    s.IsFirstFrom anchors data start := by
  obtain ⟨hlisted, hfind⟩ := mem_sightings_iff.1 (mem_of_leftmost? h)
  obtain ⟨hstart, hoccurs, -⟩ := find?_eq_some_iff.1 hfind
  refine ⟨⟨hlisted, hoccurs, fun k a hk ha => ?_⟩, hstart, fun a ha i hi hai => ?_⟩
  · obtain ⟨t, ht, rfl, htle⟩ := exists_mem_sightings hk hstart ha
    -- The sightings stand in the order of their anchors, and those in front of `s` are farther right.
    obtain ⟨before, after, hss, hbefore, -⟩ := append_of_leftmost? h
    have hsorted := pairwise_sightings anchors data start
    rw [hss, List.pairwise_append] at hsorted
    rw [hss] at ht
    rcases List.mem_append.1 ht with ht | ht
    · exact absurd (hbefore t ht) (Nat.not_lt.2 htle)
    · rcases List.mem_cons.1 ht with rfl | ht
      · exact Nat.le_refl _
      · exact Nat.le_of_lt ((List.pairwise_cons.1 hsorted.2.1).1 t ht)
  · obtain ⟨k, hk⟩ := List.getElem?_of_mem ha
    obtain ⟨t, ht, -, htle⟩ := exists_mem_sightings hk hi hai
    exact Nat.le_trans (offset_le_of_leftmost? h ht) htle

theorem first?_eq_none_iff : first? anchors data start = none ↔ NoneFrom anchors data start := by
  rw [first?, leftmost?_eq_none_iff, List.eq_nil_iff_forall_not_mem]
  constructor
  · intro h a ha i hi hai
    obtain ⟨k, hk⟩ := List.getElem?_of_mem ha
    obtain ⟨t, ht, -⟩ := exists_mem_sightings hk hi hai
    exact h t ht
  · intro h s hs
    obtain ⟨hlisted, hfind⟩ := mem_sightings_iff.1 hs
    obtain ⟨hstart, hoccurs, -⟩ := find?_eq_some_iff.1 hfind
    exact h s.anchor (List.mem_of_getElem? hlisted) s.offset hstart hoccurs

theorem Sighting.IsFirstListed.mem (h : s.IsFirstListed anchors data) : s.anchor ∈ anchors :=
  List.mem_of_getElem? h.listed

/-- There is one first anchor at a place. -/
theorem Sighting.IsFirstListed.unique (hs : s.IsFirstListed anchors data)
    (ht : t.IsFirstListed anchors data) (hoffset : s.offset = t.offset) : s = t := by
  have hindex : s.index = t.index :=
    Nat.le_antisymm (hs.least _ _ ht.listed (hoffset ▸ ht.occurs))
      (ht.least _ _ hs.listed (hoffset ▸ hs.occurs))
  have hanchor : s.anchor = t.anchor := by
    have hlisted := hs.listed
    rw [hindex, ht.listed] at hlisted
    exact (Option.some.inj hlisted).symm
  cases s
  cases t
  simp_all

/-- There is one leftmost sighting. -/
theorem Sighting.IsFirstFrom.unique (hs : s.IsFirstFrom anchors data start)
    (ht : t.IsFirstFrom anchors data start) : s = t :=
  hs.toIsFirstListed.unique ht.toIsFirstListed <|
    Nat.le_antisymm (hs.leftmost _ ht.mem _ ht.start_le ht.occurs)
      (ht.leftmost _ hs.mem _ hs.start_le hs.occurs)

/-- A search from where it has ended finds the same again. -/
theorem Sighting.IsFirstFrom.again (h : s.IsFirstFrom anchors data start) :
    s.IsFirstFrom anchors data s.offset :=
  ⟨h.toIsFirstListed, Nat.le_refl _, fun _ _ _ hi _ => hi⟩

/-- **The search for several anchors**: the leftmost occurrence, and there the first anchor in the
list. -/
theorem first?_eq_some_iff :
    first? anchors data start = some s ↔ s.IsFirstFrom anchors data start := by
  refine ⟨isFirstFrom_of_first?, fun h => ?_⟩
  cases hfirst : first? anchors data start with
  | none => exact absurd h.occurs (first?_eq_none_iff.1 hfirst _ h.mem _ h.start_le)
  | some t => rw [(isFirstFrom_of_first? hfirst).unique h]

/-- Where an anchor occurs, one of those that do is the first in the list. -/
theorem exists_isFirstFrom (ha : a ∈ anchors) (hai : a.OccursAt data i) :
    ∃ s : Sighting, s.IsFirstFrom anchors data i ∧ s.offset = i := by
  cases hfirst : first? anchors data i with
  | none => exact absurd hai (first?_eq_none_iff.1 hfirst a ha i (Nat.le_refl i))
  | some s =>
    have hs := first?_eq_some_iff.1 hfirst
    exact ⟨s, hs, Nat.le_antisymm (hs.leftmost a ha i (Nat.le_refl i) hai) hs.start_le⟩

theorem occursIn_iff : occursIn anchors data = true ↔ ∃ a ∈ anchors, ∃ i, a.OccursAt data i := by
  rw [occursIn, Option.isSome_iff_ne_none, Ne, first?_eq_none_iff]
  simp [NoneFrom]

/-- The search does not care about places at which nothing occurs. -/
theorem first?_congr {start' : Nat} (hle : start ≤ start')
    (h : ∀ a ∈ anchors, ∀ i, start ≤ i → i < start' → ¬ a.OccursAt data i) :
    first? anchors data start = first? anchors data start' := by
  cases hfirst : first? anchors data start' with
  | none =>
    rw [first?_eq_none_iff] at hfirst ⊢
    intro a ha i hi hai
    rcases Nat.lt_or_ge i start' with hlt | hge
    · exact h a ha i hi hlt hai
    · exact hfirst a ha i hge hai
  | some s =>
    rw [first?_eq_some_iff] at hfirst ⊢
    refine ⟨hfirst.toIsFirstListed, Nat.le_trans hle hfirst.start_le, fun a ha i hi hai => ?_⟩
    rcases Nat.lt_or_ge i start' with hlt | hge
    · exact absurd hai (h a ha i hi hlt)
    · exact hfirst.leftmost a ha i hge hai

/-! ### The anchor at the front -/

theorem isFirstListed_of_leading? (h : leading? anchors data = some s) :
    s.offset = 0 ∧ s.IsFirstListed anchors data := by
  obtain ⟨⟨a, index⟩, hfind, rfl⟩ := Option.map_eq_some_iff.1 h
  obtain ⟨hleading, i, hi, hget, hbefore⟩ := List.find?_eq_some_iff_getElem.1 hfind
  rw [List.getElem_zipIdx, Prod.mk.injEq, Nat.zero_add] at hget
  obtain ⟨rfl, rfl⟩ := hget
  rw [List.length_zipIdx] at hi
  refine ⟨rfl, List.getElem?_eq_getElem hi, isLeading_iff.1 hleading, fun k b hk hb => ?_⟩
  refine Nat.le_of_not_lt fun hlt => ?_
  have := hbefore k hlt
  rw [List.getElem_zipIdx] at this
  obtain ⟨hk', rfl⟩ := List.getElem?_eq_some_iff.1 hk
  simp [isLeading_iff.2 hb] at this

theorem leading?_eq_none_iff :
    leading? anchors data = none ↔ ∀ a ∈ anchors, ¬ a.OccursAt data 0 := by
  rw [leading?, Option.map_eq_none_iff, List.find?_eq_none]
  constructor
  · intro h a ha hzero
    obtain ⟨k, hk⟩ := List.getElem?_of_mem ha
    exact h (a, k) (List.mk_mem_zipIdx_iff_getElem?.2 hk) (isLeading_iff.2 hzero)
  · rintro h ⟨a, k⟩ hmem hleading
    have ha := List.mem_of_getElem? (List.mk_mem_zipIdx_iff_getElem?.1 hmem)
    exact h a ha (isLeading_iff.1 hleading)

/-- **The anchor at the front** is the first in the list that occurs there. -/
theorem leading?_eq_some_iff :
    leading? anchors data = some s ↔ s.offset = 0 ∧ s.IsFirstListed anchors data := by
  refine ⟨isFirstListed_of_leading?, fun ⟨hoffset, hs⟩ => ?_⟩
  cases hleading : leading? anchors data with
  | none => exact absurd (hoffset ▸ hs.occurs) (leading?_eq_none_iff.1 hleading _ hs.mem)
  | some t =>
    obtain ⟨ht, hlisted⟩ := isFirstListed_of_leading? hleading
    rw [hlisted.unique hs (ht.trans hoffset.symm)]

/-- A search from the front finds the same, if it finds something there at all. -/
theorem leading?_eq_some_iff_first? :
    leading? anchors data = some s ↔ first? anchors data 0 = some s ∧ s.offset = 0 := by
  rw [leading?_eq_some_iff, first?_eq_some_iff]
  constructor
  · rintro ⟨hoffset, hs⟩
    have hfront : ∀ i, s.offset ≤ i := fun i => hoffset ▸ Nat.zero_le i
    exact ⟨⟨hs, Nat.zero_le _, fun _ _ i _ _ => hfront i⟩, hoffset⟩
  · rintro ⟨hs, hoffset⟩
    exact ⟨hoffset, hs.toIsFirstListed⟩

/-! ### All searches -/

/-- What the searches say is what occurs. -/
structure AreSought (anchors : List Anchor) (data : Bytes) (start : Nat) : Prop where
  /-- Something is found if a pattern stands inside the data, at `start` or behind it. -/
  found_iff : (∃ s, first? anchors data start = some s) ↔
    ∃ a ∈ anchors, ∃ i, start ≤ i ∧ a.OccursAt data i ∧ i + a.pattern.length ≤ data.length
  /-- It is the leftmost occurrence, and there the first anchor in the list. -/
  isFirstFrom : ∀ s, first? anchors data start = some s → s.IsFirstFrom anchors data start
  /-- An anchor is in the data if a pattern stands anywhere inside them. -/
  occursIn_iff : occursIn anchors data = true ↔
    ∃ a ∈ anchors, ∃ i, a.OccursAt data i ∧ i + a.pattern.length ≤ data.length
  /-- The anchor at the front is what a search from the front finds there. -/
  leading?_iff : ∀ s, leading? anchors data = some s ↔ first? anchors data 0 = some s ∧ s.offset = 0

/-- **The searches find what occurs**, whatever the anchors are and wherever the search begins. -/
theorem searches_exact (anchors : List Anchor) (data : Bytes) (start : Nat) :
    AreSought anchors data start := by
  refine ⟨?_, fun s => first?_eq_some_iff.1, ?_, fun s => leading?_eq_some_iff_first?⟩
  · constructor
    · rintro ⟨s, hs⟩
      have hfirst := first?_eq_some_iff.1 hs
      exact ⟨s.anchor, hfirst.mem, s.offset, hfirst.start_le, hfirst.occurs,
        hfirst.occurs.add_length_le⟩
    · rintro ⟨a, ha, i, hi, hai, -⟩
      rw [← Option.ne_none_iff_exists']
      exact fun hnone => first?_eq_none_iff.1 hnone a ha i hi hai
  · rw [occursIn_iff]
    constructor
    · rintro ⟨a, ha, i, hai⟩
      exact ⟨a, ha, i, hai, hai.add_length_le⟩
    · rintro ⟨a, ha, i, hai, -⟩
      exact ⟨a, ha, i, hai⟩

/-- An empty pattern is passed over, and of two patterns at one place the longer one is found if it comes
first in the list. -/
example : first? [⟨[], .unknown, 9⟩, ⟨[1, 2], .full, 9⟩, ⟨[1], .compact, 9⟩] [0, 1, 2, 1] 0 =
    some ⟨1, 1, ⟨[1, 2], .full, 9⟩⟩ := by decide

end MeterBridge.Anchor
