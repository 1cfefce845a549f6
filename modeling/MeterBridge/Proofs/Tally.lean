import MeterBridge.Proofs.Outcome
import Mathlib.Algebra.BigOperators.Group.List.Basic
import Mathlib.Algebra.GroupWithZero.Nat

/-!
# Tallies

Statistics are added count by count, so they are a commutative monoid, and the statistics of several
outcomes do not depend on their order. `Accounts` says what statistics have to be if they are those of
some outcomes and of some skipped lines: each count is a number or a sum that is read off the outcomes.
Statistics that account for two lots are added up to account for both (`Accounts.add`), and the tally of
one outcome accounts for it (`accounts_ofOutcome`).
-/

namespace MeterBridge

/-- Every verdict is a telegram or a rejection. -/
theorem Outcome.length_telegrams_add_rejections (o : Outcome) :
    o.telegrams.length + o.rejections.length = o.verdicts.length := by
  rw [telegrams, rejections]
  induction o.verdicts with
  | nil => rfl
  | cons verdict rest ih =>
    cases verdict with
    | ok t =>
      change (rest.filterMap (·.toOption)).length + 1 + (rest.filterMap rejection?).length =
        rest.length + 1
      omega
    | error x =>
      change (rest.filterMap (·.toOption)).length + ((rest.filterMap rejection?).length + 1) =
        rest.length + 1
      omega

namespace Stats

attribute [ext] Stats

/-! ### Statistics add up -/

instance : Zero Stats := ⟨zero⟩

instance : AddCommMonoid Stats where
  add_assoc a b c := by ext <;> exact Nat.add_assoc _ _ _
  zero_add a := by ext <;> exact Nat.zero_add _
  add_zero a := by ext <;> exact Nat.add_zero _
  add_comm a b := by ext <;> exact Nat.add_comm _ _
  nsmul := nsmulRec

theorem add_eq (a b : Stats) : a + b =
    { notifications := a.notifications + b.notifications
      productive := a.productive + b.productive
      telegrams := a.telegrams + b.telegrams
      tooShort := a.tooShort + b.tooShort
      badAnchor := a.badAnchor + b.badAnchor
      idMismatch := a.idMismatch + b.idMismatch
      lengthByteMismatch := a.lengthByteMismatch + b.lengthByteMismatch
      unrecognizedLength := a.unrecognizedLength + b.unrecognizedLength
      incompleteTail := a.incompleteTail + b.incompleteTail
      skippedLines := a.skippedLines + b.skippedLines } := rfl

/-- The candidates that were rejected for a reason. -/
def rejectedFor (s : Stats) : Rejection.Reason → Nat
  | .tooShort => s.tooShort
  | .badAnchor => s.badAnchor
  | .idMismatch => s.idMismatch
  | .lengthByteMismatch => s.lengthByteMismatch

theorem rejectedFor_add (a b : Stats) (reason : Rejection.Reason) :
    (a + b).rejectedFor reason = a.rejectedFor reason + b.rejectedFor reason := by
  cases reason <;> rfl

theorem rejected_add (a b : Stats) : (a + b).rejected = a.rejected + b.rejected := by
  change (a.tooShort + b.tooShort) + (a.badAnchor + b.badAnchor) + (a.idMismatch + b.idMismatch) +
    (a.lengthByteMismatch + b.lengthByteMismatch) = _
  rw [rejected, rejected]
  omega

/-! ### Rejections -/

theorem ofReasons_eq_sum (reasons : List Rejection.Reason) :
    ofReasons reasons = (reasons.map ofReason).sum := by
  rw [List.sum_eq_foldl, List.foldl_map]
  rfl

/-- Rejections are counted for their reasons and for nothing else. -/
theorem ofReasons_eq (reasons : List Rejection.Reason) :
    ofReasons reasons = { zero with
      tooShort := reasons.count .tooShort
      badAnchor := reasons.count .badAnchor
      idMismatch := reasons.count .idMismatch
      lengthByteMismatch := reasons.count .lengthByteMismatch } := by
  rw [ofReasons_eq_sum]
  induction reasons with
  | nil => rfl
  | cons reason rest ih =>
    rw [List.map_cons, List.sum_cons, ih, add_eq]
    cases reason <;> simp [ofReason, zero, Nat.add_comm]

theorem rejectedFor_ofReasons (reasons : List Rejection.Reason) (reason : Rejection.Reason) :
    (ofReasons reasons).rejectedFor reason = reasons.count reason := by
  rw [ofReasons_eq]
  cases reason <;> rfl

theorem rejected_ofReasons (reasons : List Rejection.Reason) :
    (ofReasons reasons).rejected = reasons.length := by
  rw [ofReasons_eq, rejected]
  induction reasons with
  | nil => rfl
  | cons reason rest ih =>
    rw [List.length_cons, ← ih]
    cases reason <;> simp <;> omega

/-! ### Accounts -/

/-- The statistics are those of these outcomes and of so many skipped lines. -/
structure Accounts (os : List Outcome) (skipped : Nat) (s : Stats) : Prop where
  /-- Each outcome is that of one notification. -/
  notifications : s.notifications = os.length
  /-- All telegrams are counted. -/
  telegrams : s.telegrams = (os.map fun o => o.telegrams.length).sum
  /-- All rejections are counted. -/
  rejected : s.rejected = (os.map fun o => o.rejections.length).sum
  /-- Each rejection is counted for its reason. -/
  reasons : ∀ reason, s.rejectedFor reason =
    (os.map fun o => o.rejections.countP fun x => x.reason = reason).sum
  /-- Nothing that was cut is left out. -/
  candidates : s.telegrams + s.rejected = (os.map fun o => o.extraction.candidates.length).sum
  /-- The outcomes with a telegram. -/
  productive : s.productive = os.countP fun o => o.telegrams ≠ []
  /-- The outcomes by the fallback. -/
  unrecognizedLength : s.unrecognizedLength = os.countP fun o => o.extraction.choice.isFallback
  /-- The outcomes with an incomplete tail. -/
  incompleteTail : s.incompleteTail = os.countP fun o => o.extraction.hasIncompleteTail
  /-- The skipped lines. -/
  skippedLines : s.skippedLines = skipped

theorem accounts_zero : Accounts [] 0 0 :=
  ⟨rfl, rfl, rfl, fun reason => by cases reason <;> rfl, rfl, rfl, rfl, rfl, rfl⟩

/-- A skipped line counts as one and as nothing else. -/
theorem accounts_ofSkippedLine : Accounts [] 1 ofSkippedLine :=
  ⟨rfl, rfl, rfl, fun reason => by cases reason <;> rfl, rfl, rfl, rfl, rfl, rfl⟩

/-- Two accounts are added up. -/
theorem Accounts.add {os os' : List Outcome} {k k' : Nat} {s s' : Stats} (h : Accounts os k s)
    (h' : Accounts os' k' s') : Accounts (os ++ os') (k + k') (s + s') where
  notifications := by
    rw [List.length_append, ← h.notifications, ← h'.notifications]
    rfl
  telegrams := by
    rw [List.map_append, List.sum_append, ← h.telegrams, ← h'.telegrams]
    rfl
  rejected := by
    rw [List.map_append, List.sum_append, ← h.rejected, ← h'.rejected]
    exact rejected_add s s'
  reasons reason := by
    rw [List.map_append, List.sum_append, ← h.reasons, ← h'.reasons]
    exact rejectedFor_add s s' reason
  candidates := by
    have htelegrams : (s + s').telegrams = s.telegrams + s'.telegrams := rfl
    rw [List.map_append, List.sum_append, ← h.candidates, ← h'.candidates, rejected_add, htelegrams]
    omega
  productive := by
    rw [List.countP_append, ← h.productive, ← h'.productive]
    rfl
  unrecognizedLength := by
    rw [List.countP_append, ← h.unrecognizedLength, ← h'.unrecognizedLength]
    rfl
  incompleteTail := by
    rw [List.countP_append, ← h.incompleteTail, ← h'.incompleteTail]
    rfl
  skippedLines := by
    rw [← h.skippedLines, ← h'.skippedLines]
    rfl

/-- Accounts of several items are added up. -/
theorem accounts_sum {β : Type} {items : List β} {os : β → List Outcome} {skips : β → Bool}
    {tally : β → Stats} (h : ∀ b ∈ items, Accounts (os b) (if skips b then 1 else 0) (tally b)) :
    Accounts (items.flatMap os) (items.countP skips) (items.map tally).sum := by
  induction items with
  | nil => exact accounts_zero
  | cons b items ih =>
    obtain ⟨hb, hitems⟩ := List.forall_mem_cons.1 h
    rw [List.flatMap_cons, List.countP_cons, List.map_cons, List.sum_cons, Nat.add_comm]
    exact hb.add (ih hitems)

/-- The tally of an outcome: its rejections for their reasons, and the other counts beside them. -/
theorem ofOutcome_eq (o : Outcome) : ofOutcome o =
    { ofReasons (o.rejections.map (·.reason)) with
      notifications := 1
      productive := if o.telegrams.isEmpty then 0 else 1
      telegrams := o.telegrams.length
      unrecognizedLength := if o.extraction.choice.isFallback then 1 else 0
      incompleteTail := if o.extraction.hasIncompleteTail then 1 else 0 } := by
  rw [ofOutcome, ofReasons_eq, add_eq]
  simp [zero]

theorem rejected_ofOutcome (o : Outcome) : (ofOutcome o).rejected = o.rejections.length := by
  rw [ofOutcome, rejected_add, rejected_ofReasons, List.length_map]
  rfl

theorem rejectedFor_ofOutcome (o : Outcome) (reason : Rejection.Reason) :
    (ofOutcome o).rejectedFor reason = o.rejections.countP fun x => x.reason = reason := by
  have hcount : (ofReasons (o.rejections.map (·.reason))).rejectedFor reason =
      o.rejections.countP fun x => x.reason = reason := by
    rw [rejectedFor_ofReasons, List.count, List.countP_map]
    rfl
  rw [← hcount, ofOutcome_eq]
  cases reason <;> rfl

/-- The tally of an outcome accounts for it. -/
theorem accounts_ofOutcome {o : Outcome} (hverdicts : o.verdicts.length = o.extraction.candidates.length) :
    Accounts [o] 0 (ofOutcome o) := by
  have htelegrams : (ofOutcome o).telegrams = o.telegrams.length := by rw [ofOutcome_eq]
  refine ⟨?_, ?_, ?_, fun reason => ?_, ?_, ?_, ?_, ?_, ?_⟩
  · rw [ofOutcome_eq]
    rfl
  · rw [htelegrams]
    exact List.sum_singleton.symm
  · rw [rejected_ofOutcome]
    exact List.sum_singleton.symm
  · rw [rejectedFor_ofOutcome]
    exact List.sum_singleton.symm
  · rw [htelegrams, rejected_ofOutcome, o.length_telegrams_add_rejections, hverdicts]
    exact List.sum_singleton.symm
  · rw [ofOutcome_eq]
    simp
  · rw [ofOutcome_eq]
    simp
  · rw [ofOutcome_eq]
    simp
  · rw [ofOutcome_eq, ofReasons_eq]
    rfl

end Stats

end MeterBridge
