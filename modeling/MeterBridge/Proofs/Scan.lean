import MeterBridge.Extraction
import MeterBridge.Proofs.Sighting

/-!
# Scans

What a scan of a core cuts, said by where the anchors occur. `Scanned` is the scan as a relation:
one rule for a window that is cut and one for each way to end. `scanned_iff` says that the relation
and `scanFrom` are the same, so facts about a scan are proved by induction on it.

* `Scanned.pairwise`, `Scanned.of_mem` — the windows follow one another inside the core, and each
  is that of the first anchor in the list that occurs where it begins.
* `Scanned.covered` — an anchor occurs inside a window or not before the scan has stopped.
* `Scanned.stop` — the remark says what is left there.
-/

namespace MeterBridge.Extraction

open Anchor (Sighting)

variable {anchors : List Anchor} {core : Bytes} {cursor : Nat} {cuts : List Sighting}
  {remark : Option Remark}

/-! ### The scan as a relation -/

/-- `Scanned anchors core cursor cuts remark`: from the cursor on, the scan of the core cuts the
windows of these sightings and ends with this remark. -/
inductive Scanned (anchors : List Anchor) (core : Bytes) :
    Nat → List Sighting → Option Remark → Prop where
  /-- No anchor is left. -/
  | exhausted {cursor : Nat} : Anchor.NoneFrom anchors core cursor → Scanned anchors core cursor [] none
  /-- The window of the next anchor runs past the end of the core. -/
  | cutShort {cursor : Nat} {s : Sighting} : s.IsFirstFrom anchors core cursor →
      core.length < s.windowEnd →
        Scanned anchors core cursor [] (some (.cutShort s.anchor.kind s.offset
          s.anchor.window.toNat (core.length - s.offset)))
  /-- The window of the next anchor does not lead any further. -/
  | stalled {cursor : Nat} {s : Sighting} : s.IsFirstFrom anchors core cursor →
      s.windowEnd ≤ core.length → s.windowEnd ≤ s.offset →
        Scanned anchors core cursor [] (some (.stalled s.offset))
  /-- The window of the next anchor is cut, and the scan goes on behind it. -/
  | cut {cursor : Nat} {s : Sighting} {cuts : List Sighting} {remark : Option Remark} :
      s.IsFirstFrom anchors core cursor → s.windowEnd ≤ core.length → s.offset < s.windowEnd →
        Scanned anchors core s.windowEnd cuts remark → Scanned anchors core cursor (s :: cuts) remark

theorem scanned_scanFrom (anchors : List Anchor) (core : Bytes) (cursor : Nat) :
    Scanned anchors core cursor (scanFrom anchors core cursor).cuts
      (scanFrom anchors core cursor).remark := by
  fun_induction scanFrom anchors core cursor with
  | case1 cursor hfirst => exact .exhausted (Anchor.first?_eq_none_iff.1 hfirst)
  | case2 cursor s hfirst hshort => exact .cutShort (Anchor.first?_eq_some_iff.1 hfirst) hshort
  | case3 cursor s hfirst hshort hstall =>
    exact .stalled (Anchor.first?_eq_some_iff.1 hfirst) (Nat.le_of_not_lt hshort) hstall
  | case4 cursor s hfirst hshort hstall rest ih =>
    exact .cut (Anchor.first?_eq_some_iff.1 hfirst) (Nat.le_of_not_lt hshort)
      (Nat.lt_of_not_le hstall) ih

/-- The scan where no anchor is left. -/
theorem scanFrom_of_noneFrom (h : Anchor.NoneFrom anchors core cursor) :
    scanFrom anchors core cursor = { cuts := [], remark := none } := by
  rw [scanFrom]
  split
  · rfl
  · next s hfirst => rw [Anchor.first?_eq_none_iff.2 h] at hfirst; cases hfirst

/-- The scan where this anchor is the next. -/
theorem scanFrom_of_isFirstFrom {s : Sighting} (hs : s.IsFirstFrom anchors core cursor) :
    scanFrom anchors core cursor =
      if core.length < s.windowEnd then
        { cuts := []
          remark := some (.cutShort s.anchor.kind s.offset s.anchor.window.toNat
            (core.length - s.offset)) }
      else if s.windowEnd ≤ s.offset then { cuts := [], remark := some (.stalled s.offset) }
      else
        { scanFrom anchors core s.windowEnd with
          cuts := s :: (scanFrom anchors core s.windowEnd).cuts } := by
  rw [scanFrom]
  split
  · next hfirst => rw [Anchor.first?_eq_some_iff.2 hs] at hfirst; cases hfirst
  · next t hfirst => cases hs.unique (Anchor.first?_eq_some_iff.1 hfirst); rfl

theorem Scanned.eq_scanFrom (h : Scanned anchors core cursor cuts remark) :
    scanFrom anchors core cursor = { cuts, remark } := by
  induction h with
  | exhausted hnone => exact scanFrom_of_noneFrom hnone
  | cutShort hs hshort => rw [scanFrom_of_isFirstFrom hs, if_pos hshort]
  | stalled hs hend hstall =>
    rw [scanFrom_of_isFirstFrom hs, if_neg (Nat.not_lt.2 hend), if_pos hstall]
  | cut hs hend hlt _ ih =>
    rw [scanFrom_of_isFirstFrom hs, if_neg (Nat.not_lt.2 hend), if_neg (Nat.not_le.2 hlt), ih]

/-- **The relation is the scan.** -/
theorem scanned_iff :
    Scanned anchors core cursor cuts remark ↔ scanFrom anchors core cursor = { cuts, remark } := by
  refine ⟨Scanned.eq_scanFrom, fun h => ?_⟩
  have hscanned := scanned_scanFrom anchors core cursor
  rwa [h] at hscanned

/-- A scan passes over places at which no anchor occurs. -/
theorem Scanned.of_skip {start : Nat} (h : Scanned anchors core cursor cuts remark)
    (hle : start ≤ cursor)
    (hskip : ∀ a ∈ anchors, ∀ i, start ≤ i → i < cursor → ¬ a.OccursAt core i) :
    Scanned anchors core start cuts remark := by
  have hfirst := Anchor.first?_congr hle hskip
  have hsame : ∀ s : Sighting, s.IsFirstFrom anchors core cursor → s.IsFirstFrom anchors core start :=
    fun s hs => Anchor.first?_eq_some_iff.1 (hfirst.trans (Anchor.first?_eq_some_iff.2 hs))
  cases h with
  | exhausted hnone =>
    exact .exhausted (Anchor.first?_eq_none_iff.1 (hfirst.trans (Anchor.first?_eq_none_iff.2 hnone)))
  | cutShort hs hshort => exact .cutShort (hsame _ hs) hshort
  | stalled hs hshort hstall => exact .stalled (hsame _ hs) hshort hstall
  | cut hs hshort hlt hrest => exact .cut (hsame _ hs) hshort hlt hrest

/-! ### Where the windows lie -/

/-- Where a scan that began at the cursor stops cutting: at the end of the last window. -/
def scanStop (cursor : Nat) (cuts : List Sighting) : Nat :=
  (cuts.getLast?.map Sighting.windowEnd).getD cursor

theorem scanStop_cons (cursor : Nat) (s : Sighting) (cuts : List Sighting) :
    scanStop cursor (s :: cuts) = scanStop s.windowEnd cuts := by
  rw [scanStop, scanStop, List.getLast?_cons]
  cases cuts.getLast? <;> rfl

/-- Each window lies behind the cursor and inside the core, and begins where its anchor is the first
in the list to occur. -/
theorem Scanned.of_mem (h : Scanned anchors core cursor cuts remark) {s : Sighting} (hs : s ∈ cuts) :
    s.IsFirstListed anchors core ∧ cursor ≤ s.offset ∧ s.offset < s.windowEnd ∧
      s.windowEnd ≤ core.length := by
  induction h with
  | exhausted | cutShort | stalled => cases hs
  | cut hfirst hend hlt _ ih =>
    rcases List.mem_cons.1 hs with rfl | hs
    · exact ⟨hfirst.toIsFirstListed, hfirst.start_le, hlt, hend⟩
    · obtain ⟨hlisted, hle, hrest⟩ := ih hs
      have := hfirst.start_le
      exact ⟨hlisted, by omega, hrest⟩

/-- A window ends before the next one begins. -/
theorem Scanned.pairwise (h : Scanned anchors core cursor cuts remark) :
    cuts.Pairwise fun s t => s.windowEnd ≤ t.offset := by
  induction h with
  | exhausted | cutShort | stalled => exact .nil
  | cut _ _ _ hrest ih => exact List.pairwise_cons.2 ⟨fun t ht => (hrest.of_mem ht).2.1, ih⟩

/-- An anchor that occurs behind the cursor occurs inside a window or where the scan has stopped. -/
theorem Scanned.covered (h : Scanned anchors core cursor cuts remark) {a : Anchor} (ha : a ∈ anchors)
    {i : Nat} (hi : cursor ≤ i) (hai : a.OccursAt core i) :
    (∃ s ∈ cuts, s.offset ≤ i ∧ i < s.windowEnd) ∨ scanStop cursor cuts ≤ i := by
  induction h with
  | exhausted | cutShort | stalled => exact .inr hi
  | @cut _ s _ _ hfirst _ _ _ ih =>
    rw [scanStop_cons]
    rcases Nat.lt_or_ge i s.windowEnd with hlt | hge
    · exact .inl ⟨s, List.mem_cons_self, hfirst.leftmost a ha i hi hai, hlt⟩
    · exact (ih hge).imp_left fun ⟨t, ht, hit⟩ => ⟨t, List.mem_cons_of_mem _ ht, hit⟩

/-- Windows of at least `k` bytes each take up at least that much of the core. -/
theorem Scanned.mul_length_le (h : Scanned anchors core cursor cuts remark) {k : Nat}
    (hk : ∀ s ∈ cuts, s.offset + k ≤ s.windowEnd) : k * cuts.length ≤ core.length - cursor := by
  induction h with
  | exhausted | cutShort | stalled => exact Nat.zero_le _
  | @cut _ s cuts _ hfirst hend _ _ ih =>
    have hrest := ih fun t ht => hk t (List.mem_cons_of_mem _ ht)
    have hwindow := hk s List.mem_cons_self
    have hle := hfirst.start_le
    rw [List.length_cons, Nat.mul_succ]
    omega

/-- There is a byte at least in each window. -/
theorem Scanned.length_le (h : Scanned anchors core 0 cuts remark) : cuts.length ≤ core.length := by
  have hone : ∀ s ∈ cuts, s.offset + 1 ≤ s.windowEnd := fun s hs => (h.of_mem hs).2.2.1
  have hle := h.mul_length_le hone
  rwa [Nat.one_mul] at hle

/-- What is left where the scan stops is scanned without a cut, with the same remark. -/
theorem Scanned.stop (h : Scanned anchors core cursor cuts remark) :
    Scanned anchors core (scanStop cursor cuts) [] remark := by
  induction h with
  | exhausted hnone => exact .exhausted hnone
  | cutShort hs hshort => exact .cutShort hs hshort
  | stalled hs hshort hstall => exact .stalled hs hshort hstall
  | cut _ _ _ _ ih => rwa [scanStop_cons]

/-- A scan never stalls if no window is empty and the core is shorter than the greatest position. -/
theorem Scanned.not_stalled (h : Scanned anchors core cursor cuts remark)
    (hwindow : ∀ a ∈ anchors, 0 < a.window.toNat) (hlength : core.length < Anchor.greatestPosition)
    (i : Nat) : remark ≠ some (.stalled i) := by
  induction h with
  | exhausted | cutShort => simp
  | @stalled _ s hs _ hstall =>
    have hpos := hwindow s.anchor hs.mem
    have hlt := hs.occurs.lt_length
    rw [Sighting.windowEnd] at hstall
    omega
  | cut _ _ _ _ ih => exact ih

/-- A scan that does not stall and cuts nothing finds no anchor, or one with too long a window. -/
theorem Scanned.nil_cases (h : Scanned anchors core cursor [] remark)
    (hstall : ∀ i, remark ≠ some (.stalled i)) :
    (Anchor.NoneFrom anchors core cursor ∧ remark = none) ∨
      ∃ s : Sighting, s.IsFirstFrom anchors core cursor ∧ core.length < s.windowEnd ∧
        remark = some (.cutShort s.anchor.kind s.offset s.anchor.window.toNat
          (core.length - s.offset)) := by
  cases h with
  | exhausted hnone => exact .inl ⟨hnone, rfl⟩
  | @cutShort _ s hs hshort => exact .inr ⟨s, hs, hshort, rfl⟩
  | stalled => exact absurd rfl (hstall _)

/-- A window that ends inside a core shorter than the greatest position has its full length. -/
theorem windowEnd_eq {s : Sighting} {length : Nat} (hend : s.windowEnd ≤ length)
    (hlength : length < Anchor.greatestPosition) :
    s.windowEnd = s.offset + s.anchor.window.toNat := by
  rw [Sighting.windowEnd] at hend ⊢
  omega

end MeterBridge.Extraction
