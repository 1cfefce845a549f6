import MeterBridge.Proofs.Machine

/-!
# Scans round by round

`Extraction.scanFrom` gives a scan up as stalled where a window does not lead it any further. A machine
does not know: it cuts the empty window again, in every round to come. Here a scan goes round by round, by
the operations of the machine, and may or may not come to an end.

* `exists_rounds` — no round fails, whatever the anchors are.
* `rounds_scanned` — the rounds cut the windows of `scanFrom`, one after another.
* `Selects.of_le` — an anchor with an empty window is selected in every round after the first in which it
  is.
* `rounds_eq_ended_iff` — so the rounds come to an end if and only if the scan does not stall, and then with
  what the library says.
-/

namespace MeterBridge

open Anchor (Sighting)
open Extraction (Scanned scanFrom scanStop)

namespace Machine

/-! ### Rounds -/

/-- How far a scan has come. -/
inductive Progress where
  /-- It goes on from this position, and these are the candidates so far. -/
  | running (cursor : Nat) (candidates : List Candidate)
  /-- It has come to an end. -/
  | ended (yield : Extraction.Yield)

/-- One round: the window of the next anchor is cut. The scan ends if there is no anchor left or the window
runs past the end of the core. -/
def round (anchors : List Anchor) (choice : Rule.Choice) (frame : Envelope.Stripped) :
    Progress → Except Fault Progress
  | .ended yield => return .ended yield
  | .running cursor candidates => do
    match ← first? anchors frame.core cursor with
    | none => return .ended (candidates, none)
    | some s =>
      if frame.core.length < s.windowEnd then
        let left ← difference frame.core.length s.offset
        return .ended (candidates,
          some (.cutShort s.anchor.kind s.offset s.anchor.window.toNat left))
      let bytes ← slice frame.core s.offset s.windowEnd
      let offset ← sum frame.coreOffset s.offset
      return .running s.windowEnd (candidates ++ [{ bytes, choice, kind := s.anchor.kind, offset }])

/-- So many rounds. -/
def rounds (anchors : List Anchor) (choice : Rule.Choice) (frame : Envelope.Stripped) :
    Nat → Progress → Except Fault Progress
  | 0, progress => return progress
  | n + 1, progress => do rounds anchors choice frame n (← round anchors choice frame progress)

/-- In this round, counted from zero, the scan of the core selects the sighting. -/
def Selects (anchors : List Anchor) (choice : Rule.Choice) (frame : Envelope.Stripped) (n : Nat)
    (s : Sighting) : Prop :=
  ∃ cursor candidates, rounds anchors choice frame n (.running 0 []) = .ok (.running cursor candidates) ∧
    first? anchors frame.core cursor = .ok (some s)

section Rounds

variable {anchors : List Anchor} {choice : Rule.Choice} {frame : Envelope.Stripped} {m n cursor : Nat}
  {p q : Progress} {s : Sighting} {candidates : List Candidate} {cuts : List Sighting}
  {remark : Option Extraction.Remark}

theorem rounds_ended (n : Nat) (yield : Extraction.Yield) :
    rounds anchors choice frame n (.ended yield) = .ok (.ended yield) := by
  induction n with
  | zero => rfl
  | succ n ih => exact ih

/-- Rounds go on where those before them have stopped. -/
theorem rounds_add (h : rounds anchors choice frame m p = .ok q) (n : Nat) :
    rounds anchors choice frame (m + n) p = rounds anchors choice frame n q := by
  induction m generalizing p with
  | zero =>
    cases h
    rw [Nat.zero_add]
  | succ m ih =>
    rw [Nat.succ_add, rounds]
    cases hround : round anchors choice frame p with
    | error fault => simp [rounds, hround, bind, Except.bind] at h
    | ok p' =>
      simp only [rounds, hround, bind, Except.bind] at h ⊢
      exact ih h

/-- One round more. -/
theorem rounds_succ (h : rounds anchors choice frame n p = .ok q) :
    rounds anchors choice frame (n + 1) p = round anchors choice frame q := by
  rw [rounds_add h 1, rounds]
  cases round anchors choice frame q <;> rfl

/-- What has come to an end stays so. -/
theorem rounds_eq_ended_of_le {yield : Extraction.Yield}
    (h : rounds anchors choice frame m p = .ok (.ended yield)) (hle : m ≤ n) :
    rounds anchors choice frame n p = .ok (.ended yield) := by
  obtain ⟨k, rfl⟩ := Nat.exists_eq_add_of_le hle
  rw [rounds_add h, rounds_ended]

variable (hframe : frame.coreOffset + frame.core.length < Anchor.greatestPosition)

include hframe

theorem core_lt_size : frame.core.length < UInt64.size := by
  have hgreatest : Anchor.greatestPosition = UInt64.size - 1 := rfl
  omega

/-! ### What a round does -/

theorem round_exhausted (hnone : Anchor.first? anchors frame.core cursor = none) :
    round anchors choice frame (.running cursor candidates) = .ok (.ended (candidates, none)) := by
  rw [round, first?_eq (core_lt_size hframe), hnone]
  rfl

theorem round_cutShort (hs : Anchor.first? anchors frame.core cursor = some s)
    (hshort : frame.core.length < s.windowEnd) :
    round anchors choice frame (.running cursor candidates) =
      .ok (.ended (candidates, some (.cutShort s.anchor.kind s.offset s.anchor.window.toNat
        (frame.core.length - s.offset)))) := by
  have hlt := (Anchor.first?_eq_some_iff.1 hs).occurs.lt_length
  rw [round, first?_eq (core_lt_size hframe), hs]
  simp only [bind, Except.bind, hshort, if_true, difference_eq (Nat.le_of_lt hlt)]
  rfl

/-- A window never ends before it begins. -/
theorem offset_le_windowEnd (hs : Anchor.first? anchors frame.core cursor = some s) :
    s.offset ≤ s.windowEnd := by
  have hlt := (Anchor.first?_eq_some_iff.1 hs).occurs.lt_length
  rw [Sighting.windowEnd]
  omega

theorem round_cut (hs : Anchor.first? anchors frame.core cursor = some s)
    (hend : s.windowEnd ≤ frame.core.length) :
    round anchors choice frame (.running cursor candidates) =
      .ok (.running s.windowEnd (candidates ++ [Extraction.cut choice frame s])) := by
  have hlt := (Anchor.first?_eq_some_iff.1 hs).occurs.lt_length
  have hsum : frame.coreOffset + s.offset < UInt64.size := by
    have hgreatest : Anchor.greatestPosition = UInt64.size - 1 := rfl
    omega
  rw [round, first?_eq (core_lt_size hframe), hs]
  simp only [bind, Except.bind, Nat.not_lt.2 hend, if_false,
    slice_eq (offset_le_windowEnd hframe hs) hend, sum_eq hsum]
  rfl

/-- **No round fails.** -/
theorem exists_round (anchors : List Anchor) (choice : Rule.Choice) (p : Progress) :
    ∃ q, round anchors choice frame p = .ok q := by
  cases p with
  | ended yield => exact ⟨_, rfl⟩
  | running cursor candidates =>
    cases hfirst : Anchor.first? anchors frame.core cursor with
    | none => exact ⟨_, round_exhausted hframe hfirst⟩
    | some s =>
      rcases Nat.lt_or_ge frame.core.length s.windowEnd with hshort | hend
      · exact ⟨_, round_cutShort hframe hfirst hshort⟩
      · exact ⟨_, round_cut hframe hfirst hend⟩

theorem exists_rounds (anchors : List Anchor) (choice : Rule.Choice) (n : Nat) (p : Progress) :
    ∃ q, rounds anchors choice frame n p = .ok q := by
  induction n with
  | zero => exact ⟨p, rfl⟩
  | succ n ih =>
    obtain ⟨q, hq⟩ := ih
    rw [rounds_succ hq]
    exact exists_round hframe anchors choice q

/-! ### Rounds and the scan -/

/-- A window inside the core does not lead the scan any further if and only if it is empty. -/
theorem windowEnd_le_offset_iff (hs : Anchor.first? anchors frame.core cursor = some s) :
    s.windowEnd ≤ s.offset ↔ s.anchor.window = 0 := by
  have hlt := (Anchor.first?_eq_some_iff.1 hs).occurs.lt_length
  rw [← UInt64.toNat_inj, UInt64.toNat_zero, Sighting.windowEnd]
  omega

/-- The first rounds cut the windows of the scan. -/
theorem rounds_scanned (choice : Rule.Choice) (h : Scanned anchors frame.core cursor cuts remark)
    (candidates : List Candidate) :
    rounds anchors choice frame cuts.length (.running cursor candidates) =
      .ok (.running (scanStop cursor cuts)
        (candidates ++ cuts.map (Extraction.cut choice frame))) := by
  induction h generalizing candidates with
  | exhausted | cutShort | stalled =>
    rw [List.map_nil, List.append_nil]
    rfl
  | @cut cursor s cuts _ hs hend _ _ ih =>
    have hround : rounds anchors choice frame 1 (.running cursor candidates) =
        .ok (.running s.windowEnd (candidates ++ [Extraction.cut choice frame s])) :=
      (rounds_succ rfl).trans (round_cut hframe (Anchor.first?_eq_some_iff.2 hs) hend)
    rw [List.length_cons, Nat.add_comm, rounds_add hround, ih, Extraction.scanStop_cons, List.map_cons,
      List.append_assoc, List.singleton_append]

/-- Where the scan stops and is not stalled, one round more ends it. -/
theorem round_scanStop (h : Scanned anchors frame.core cursor cuts remark)
    (hstall : ∀ i, remark ≠ some (.stalled i)) (candidates : List Candidate) :
    round anchors choice frame (.running (scanStop cursor cuts) candidates) =
      .ok (.ended (candidates, remark)) := by
  rcases h.stop.nil_cases hstall with ⟨hnone, rfl⟩ | ⟨s, hs, hshort, rfl⟩
  · exact round_exhausted hframe (Anchor.first?_eq_none_iff.2 hnone)
  · exact round_cutShort hframe (Anchor.first?_eq_some_iff.2 hs) hshort

/-- A scan that stalls selects an anchor with an empty window. -/
theorem exists_selects_of_stalled (choice : Rule.Choice) {i : Nat}
    (h : Scanned anchors frame.core 0 cuts (some (.stalled i))) :
    ∃ s, Selects anchors choice frame cuts.length s ∧ s.anchor.window = 0 := by
  have hrounds := rounds_scanned hframe choice h []
  cases h.stop with
  | @stalled _ s hs _ hstall =>
    have hfirst := Anchor.first?_eq_some_iff.2 hs
    exact ⟨s, ⟨_, _, hrounds, by rw [first?_eq (core_lt_size hframe), hfirst]⟩,
      (windowEnd_le_offset_iff hframe hfirst).1 hstall⟩

/-- An anchor with an empty window is selected again in the next round. -/
theorem Selects.succ (h : Selects anchors choice frame n s) (hwindow : s.anchor.window = 0) :
    Selects anchors choice frame (n + 1) s := by
  obtain ⟨cursor, candidates, hrounds, hselect⟩ := h
  rw [first?_eq (core_lt_size hframe), Except.ok.injEq] at hselect
  have hfirst := Anchor.first?_eq_some_iff.1 hselect
  have hlt := hfirst.occurs.lt_length
  have hend : s.windowEnd = s.offset :=
    Nat.le_antisymm ((windowEnd_le_offset_iff hframe hselect).2 hwindow)
      (offset_le_windowEnd hframe hselect)
  refine ⟨s.offset, candidates ++ [Extraction.cut choice frame s], ?_, ?_⟩
  · rw [rounds_succ hrounds, round_cut hframe hselect (by omega), hend]
  · rw [first?_eq (core_lt_size hframe), Anchor.first?_eq_some_iff.2 hfirst.again]

/-- **It is selected for ever.** -/
theorem Selects.of_le (h : Selects anchors choice frame m s) (hwindow : s.anchor.window = 0)
    (hle : m ≤ n) : Selects anchors choice frame n s := by
  induction n, hle using Nat.le_induction with
  | base => exact h
  | succ n _ ih => exact ih.succ hframe hwindow

/-- So the scan has not come to an end. -/
theorem Selects.not_ended (h : Selects anchors choice frame m s) (hwindow : s.anchor.window = 0)
    (yield : Extraction.Yield) :
    rounds anchors choice frame n (.running 0 []) ≠ .ok (.ended yield) := by
  intro hended
  obtain ⟨cursor, candidates, hrounds, -⟩ := h.of_le hframe hwindow (Nat.le_max_left m n)
  have hmax := rounds_eq_ended_of_le hended (Nat.le_max_right m n)
  rw [hrounds] at hmax
  cases hmax

/-- **The rounds come to an end** if and only if the scan does not stall: there is one round for each
window and one more, and the yield is that of the scan. -/
theorem rounds_eq_ended_iff {yield : Extraction.Yield} :
    rounds anchors choice frame n (.running 0 []) = .ok (.ended yield) ↔
      (∀ i, (scanFrom anchors frame.core 0).remark ≠ some (.stalled i)) ∧
        (scanFrom anchors frame.core 0).cuts.length < n ∧
        yield = Extraction.multiFrameScan anchors choice frame := by
  have hscanned := Extraction.scanned_scanFrom anchors frame.core 0
  have hrounds := rounds_scanned hframe choice hscanned []
  have hends (hstall : ∀ i, (scanFrom anchors frame.core 0).remark ≠ some (.stalled i)) :
      rounds anchors choice frame ((scanFrom anchors frame.core 0).cuts.length + 1) (.running 0 []) =
        .ok (.ended (Extraction.multiFrameScan anchors choice frame)) :=
    (rounds_succ hrounds).trans (round_scanStop hframe hscanned hstall _)
  constructor
  · intro hended
    have hstall : ∀ i, (scanFrom anchors frame.core 0).remark ≠ some (.stalled i) := by
      intro i hremark
      rw [hremark] at hscanned
      obtain ⟨s, hs, hwindow⟩ := exists_selects_of_stalled hframe choice hscanned
      exact hs.not_ended hframe hwindow yield hended
    have hlt : (scanFrom anchors frame.core 0).cuts.length < n := by
      refine Nat.lt_of_not_le fun hle => ?_
      rw [rounds_eq_ended_of_le hended hle] at hrounds
      cases hrounds
    refine ⟨hstall, hlt, ?_⟩
    rw [rounds_eq_ended_of_le (hends hstall) hlt] at hended
    cases hended
    rfl
  · rintro ⟨hstall, hlt, rfl⟩
    exact rounds_eq_ended_of_le (hends hstall) hlt

end Rounds

end Machine

end MeterBridge
