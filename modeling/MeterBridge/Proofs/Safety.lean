import MeterBridge.Proofs.Rounds

/-!
# Safety of the extraction

A receiver refuses a configuration with a fault, but an extraction may be made by any. Whatever the
configuration says — patterns that are empty or listed twice, windows that are empty, shorter than the
pattern or as long as can be, trims whose sum is beyond the greatest number — no operation of the machine
fails, and all that can happen is that a scan does not end. `ExtractsSafely` says when that is:
if and only if in some round an anchor with an empty window is selected.
-/

namespace MeterBridge

open Anchor (Sighting)

namespace Machine

/-- What so many rounds of a scan cut, if it has come to an end by then. -/
def multiFrameScan (n : Nat) (anchors : List Anchor) (choice : Rule.Choice)
    (frame : Envelope.Stripped) : Except Fault (Option Extraction.Yield) := do
  match ← rounds anchors choice frame n (.running 0 []) with
  | .running _ _ => return none
  | .ended yield => return some yield

/-- What a rule cuts out of a payload, if a scan comes to an end in so many rounds. -/
def apply (n : Nat) (anchors : List Anchor) (choice : Rule.Choice) (frame : Envelope.Stripped) :
    Except Fault (Option Extraction.Yield) :=
  match choice.rule with
  | .singleFrame leastCore => do return some (← singleFrame anchors choice frame leastCore.toNat)
  | .offsetTrim leading trailing => do
    return some (← offsetTrim anchors choice frame.payload leading.toNat trailing.toNat)
  | .multiFrameScan => multiFrameScan n anchors choice frame

/-- By this rule the machine is done in so many rounds. -/
def EndsIn (anchors : List Anchor) (choice : Rule.Choice) (frame : Envelope.Stripped) (n : Nat) : Prop :=
  choice.rule = .multiFrameScan →
    (∀ i, (Extraction.scanFrom anchors frame.core 0).remark ≠ some (.stalled i)) ∧
      (Extraction.scanFrom anchors frame.core 0).cuts.length < n

/-- A rule never fails, and what it cuts is what the library says. -/
theorem exists_apply {payload : Bytes} (hlength : payload.length < Anchor.greatestPosition) (n : Nat)
    (anchors : List Anchor) (choice : Rule.Choice) :
    ∃ r, apply n anchors choice (Envelope.strip payload) = .ok r ∧
      ∀ yield, r = some yield ↔ EndsIn anchors choice (Envelope.strip payload) n ∧
        yield = Extraction.apply anchors choice (Envelope.strip payload) := by
  have hframe := Nat.lt_of_le_of_lt (Envelope.coreOffset_add_length_le payload) hlength
  have hpayload : payload.length < UInt64.size := Nat.lt_of_lt_of_le hlength (Nat.sub_le _ _)
  rw [apply, Extraction.apply, EndsIn]
  cases hrule : choice.rule with
  | singleFrame leastCore =>
    refine ⟨_, by dsimp only; rw [singleFrame_eq (core_lt_size hframe)]; rfl, fun yield => ?_⟩
    simp [eq_comm]
  | offsetTrim leading trailing =>
    rw [Envelope.strip_payload]
    refine ⟨_, by dsimp only; rw [offsetTrim_eq hpayload]; rfl, fun yield => ?_⟩
    simp [eq_comm]
  | multiFrameScan =>
    obtain ⟨p, hp⟩ := exists_rounds hframe anchors choice n (.running 0 [])
    have hended (yield : Extraction.Yield) := (rounds_eq_ended_iff hframe :
      rounds anchors choice (Envelope.strip payload) n (.running 0 []) = .ok (.ended yield) ↔ _)
    rw [hp] at hended
    cases p with
    | running cursor candidates =>
      refine ⟨none, by simp only [multiFrameScan, hp]; rfl, fun yield => ?_⟩
      simpa [and_assoc] using hended yield
    | ended yield' =>
      refine ⟨some yield', by simp only [multiFrameScan, hp]; rfl, fun yield => ?_⟩
      simpa [and_assoc] using hended yield

end Machine

namespace Config

/-- Cuts candidates out of a payload by the rule for its length, with so many rounds for a scan; there is
no result if the scan has not come to an end by then. -/
def extractWithin (c : Config) (n : Nat) (payload : Bytes) :
    Except Machine.Fault (Option (Except Error Extraction)) := do
  let frame ← Machine.strip payload
  match c.rules.ruleFor frame.declaredLength with
  | .error e => return some (.error e)
  | .ok choice =>
    return (← Machine.apply n c.anchors choice frame).map fun yield => .ok {
      choice, declaredLength := frame.declaredLength, wrapped := frame.wrapped
      candidates := yield.1, remark := yield.2 }

/-- The extraction is done in so many rounds. -/
def EndsIn (c : Config) (payload : Bytes) (n : Nat) : Prop :=
  ∀ choice, c.rules.ruleFor payload.length = .ok choice →
    Machine.EndsIn c.anchors choice (Envelope.strip payload) n

/-- The length of the payload selects a scan, and in this round the scan selects the sighting. -/
def Selects (c : Config) (payload : Bytes) (n : Nat) (s : Sighting) : Prop :=
  ∃ choice, c.rules.ruleFor payload.length = .ok choice ∧ choice.rule = .multiFrameScan ∧
    Machine.Selects c.anchors choice (Envelope.strip payload) n s

/-- An extraction by machine arithmetic is safe. -/
structure ExtractsSafely (c : Config) (payload : Bytes) : Prop where
  /-- No slice is out of range, no sum too great and no difference below zero, however many rounds are
  made. -/
  faultless : ∀ n, ∃ r, c.extractWithin n payload = .ok r
  /-- What is extracted is what the library says. -/
  agrees : ∀ n r, c.extractWithin n payload = .ok (some r) → r = c.extract payload
  /-- The extraction comes to an end if and only if no anchor with an empty window is ever selected. -/
  ends_iff : (∃ n r, c.extractWithin n payload = .ok (some r)) ↔
    ∀ n s, c.Selects payload n s → s.anchor.window ≠ 0
  /-- It takes no more rounds than there are bytes in the core, beside the one that cuts nothing. -/
  soon : (∃ n r, c.extractWithin n payload = .ok (some r)) →
    ∃ r, c.extractWithin ((Envelope.strip payload).core.length + 1) payload = .ok (some r)
  /-- So there are no more cuts than that. -/
  few : ∀ n e, c.extractWithin n payload = .ok (some (.ok e)) → e.choice.rule = .multiFrameScan →
    e.candidates.length ≤ (Envelope.strip payload).core.length
  /-- An anchor with an empty window that is selected once is selected for ever. -/
  stuck : ∀ n s, c.Selects payload n s → s.anchor.window = 0 → ∀ m ≥ n, c.Selects payload m s
  /-- The only failure is a length without a rule. -/
  failure_iff : ∀ n e, c.extractWithin n payload = .ok (some (.error e)) ↔
    c.rules.LacksRule payload.length ∧ e = .noRule payload.length

/-- A scan cuts a byte of the core with each window. -/
theorem length_candidates_le {c : Config} {payload : Bytes} {e : Extraction}
    (h : c.extract payload = .ok e) (hrule : e.choice.rule = .multiFrameScan) :
    e.candidates.length ≤ (Envelope.strip payload).core.length := by
  obtain ⟨choice, -, rfl⟩ := extract_eq_ok_iff.1 h
  simp only [Extraction.apply, show choice.rule = _ from hrule, Extraction.multiFrameScan,
    List.length_map]
  exact (Extraction.scanned_scanFrom _ _ 0).length_le

section Safety

variable {c : Config} {payload : Bytes} (hlength : payload.length < Anchor.greatestPosition)

include hlength

/-- The extraction never fails by an operation, and its result is what the library says. -/
theorem exists_extractWithin (c : Config) (n : Nat) :
    ∃ r, c.extractWithin n payload = .ok r ∧
      ∀ x, r = some x ↔ c.EndsIn payload n ∧ x = c.extract payload := by
  simp only [extractWithin, Machine.strip_eq, extract, EndsIn, Envelope.strip_declaredLength, bind,
    Except.bind]
  cases c.rules.ruleFor payload.length with
  | error e => exact ⟨_, rfl, fun x => by simp [eq_comm]⟩
  | ok choice =>
    obtain ⟨r, hr, hyield⟩ := Machine.exists_apply hlength n c.anchors choice
    refine ⟨_, by dsimp only; rw [hr]; rfl, fun x => ?_⟩
    simp only [Option.map_eq_some_iff, hyield, Except.ok.injEq, forall_eq']
    simp [eq_comm, pure, Except.pure]

theorem extractWithin_eq_some_iff {n : Nat} {x : Except Error Extraction} :
    c.extractWithin n payload = .ok (some x) ↔ c.EndsIn payload n ∧ x = c.extract payload := by
  obtain ⟨r, hr, hresult⟩ := exists_extractWithin hlength c n
  rw [hr, Except.ok.injEq, hresult]

/-- An anchor with an empty window keeps the extraction from ending. -/
theorem Selects.not_endsIn {m n : Nat} {s : Sighting} (h : c.Selects payload m s)
    (hwindow : s.anchor.window = 0) : ¬ c.EndsIn payload n := by
  obtain ⟨choice, hchoice, hrule, hs⟩ := h
  have hframe := Nat.lt_of_le_of_lt (Envelope.coreOffset_add_length_le payload) hlength
  intro hends
  obtain ⟨hstall, hlt⟩ := hends choice hchoice hrule
  exact hs.not_ended hframe hwindow _ ((Machine.rounds_eq_ended_iff hframe).2 ⟨hstall, hlt, rfl⟩)

/-- Where none is selected, each round but the last takes a byte of the core at least. -/
theorem endsIn_of_selects (h : ∀ n s, c.Selects payload n s → s.anchor.window ≠ 0) :
    c.EndsIn payload ((Envelope.strip payload).core.length + 1) := by
  intro choice hchoice hrule
  have hframe := Nat.lt_of_le_of_lt (Envelope.coreOffset_add_length_le payload) hlength
  have hscanned := Extraction.scanned_scanFrom c.anchors (Envelope.strip payload).core 0
  refine ⟨fun i hremark => ?_, ?_⟩
  · rw [hremark] at hscanned
    obtain ⟨s, hs, hwindow⟩ := Machine.exists_selects_of_stalled hframe choice hscanned
    exact h _ s ⟨choice, hchoice, hrule, hs⟩ hwindow
  · exact Nat.lt_succ_of_le hscanned.length_le

/-- **Safety of the extraction**, for every configuration, also one with faults, and every payload. A
payload in memory is always shorter than the greatest position. -/
theorem extractsSafely (c : Config) : c.ExtractsSafely payload := by
  have hframe := Nat.lt_of_le_of_lt (Envelope.coreOffset_add_length_le payload) hlength
  have hends : (∃ n r, c.extractWithin n payload = .ok (some r)) ↔
      ∀ n s, c.Selects payload n s → s.anchor.window ≠ 0 := by
    constructor
    · rintro ⟨n, r, hr⟩ m s hs hwindow
      exact hs.not_endsIn hlength hwindow ((extractWithin_eq_some_iff hlength).1 hr).1
    · intro h
      exact ⟨_, _, (extractWithin_eq_some_iff hlength).2 ⟨endsIn_of_selects hlength h, rfl⟩⟩
  refine ⟨fun n => ?_, fun n r hr => ?_, hends, fun h => ?_, fun n e he hrule => ?_,
    fun n s hs hwindow m hle => ?_, fun n e => ?_⟩
  · obtain ⟨r, hr, -⟩ := exists_extractWithin hlength c n
    exact ⟨r, hr⟩
  · exact ((extractWithin_eq_some_iff hlength).1 hr).2
  · exact ⟨_, (extractWithin_eq_some_iff hlength).2 ⟨endsIn_of_selects hlength (hends.1 h), rfl⟩⟩
  · exact length_candidates_le ((extractWithin_eq_some_iff hlength).1 he).2.symm hrule
  · obtain ⟨choice, hchoice, hscan, hselects⟩ := hs
    exact ⟨choice, hchoice, hscan, hselects.of_le hframe hwindow hle⟩
  · rw [extractWithin_eq_some_iff hlength, eq_comm, extract_eq_error_iff]
    refine and_iff_right_of_imp fun herror choice hchoice => ?_
    rw [RuleTable.ruleFor_eq_error_iff.2 herror] at hchoice
    cases hchoice

end Safety

/-- A configuration that no receiver accepts: a pattern is empty and another one is listed twice, windows
are empty, shorter than the pattern and as long as can be, and trims add up to more than the greatest
number. -/
def degenerate : Config :=
  { Config.standard with
    anchors := [⟨[], .unknown, 38⟩, ⟨[0x25, 0x44], .compact, 0xFFFFFFFFFFFFFFFF⟩,
      ⟨[0x30, 0x44, 0x2D], .full, 2⟩, ⟨[0x30, 0x44, 0x2D], .full, 49⟩, ⟨[0x31], .unknown, 0⟩]
    rules := .ofRows [(5, .offsetTrim 0xFFFFFFFFFFFFFFFF 1), (6, .multiFrameScan), (7, .singleFrame 0)]
      none }

/-- The last but one of these payloads is scanned to its end, and the last one is not. -/
theorem extractsSafely_degenerate :
    ¬ degenerate.IsValid ∧ degenerate.ExtractsSafely [0x25, 0x44, 0, 0, 0] ∧
      (∃ n r, degenerate.extractWithin n [0, 0x30, 0x44, 0x2D, 0x25, 0x44] = .ok (some r)) ∧
      ∀ n r, degenerate.extractWithin n [0x30, 0x44, 0x2D, 0x31, 0, 0] ≠ .ok (some r) := by
  refine ⟨by decide, extractsSafely (by decide) degenerate, ⟨2, _, rfl⟩, fun n r hr => ?_⟩
  have hselects : degenerate.Selects [0x30, 0x44, 0x2D, 0x31, 0, 0] 1 ⟨3, 4, ⟨[0x31], .unknown, 0⟩⟩ :=
    ⟨⟨.row 6, .multiFrameScan⟩, rfl, rfl, 2, _, rfl, rfl⟩
  exact (extractsSafely (by decide) degenerate).ends_iff.1 ⟨n, r, hr⟩ 1 _ hselects rfl

end Config

end MeterBridge
