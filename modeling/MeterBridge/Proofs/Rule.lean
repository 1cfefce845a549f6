import MeterBridge.Rule
import MeterBridge.Proofs.SortedMap

/-!
# Rules of faultless tables

Where the rule for a length is found (`ruleFor_eq_ok_iff`, `ruleFor_eq_error_iff`), and what a table
without fault promises of it: a row never trims its notifications away, a row for single frames asks for a
core that is not empty, and the fallback does not trim. So whatever trims is a row that leaves something
(`row_of_ruleFor`).
-/

namespace MeterBridge.RuleTable

variable {t : RuleTable} {length : Nat} {rule : Rule} {choice : Rule.Choice}
  {leastCore leading trailing : UInt64}

/-- A row is found by its length. -/
theorem get?_eq_some_iff :
    t.get? length = some rule ↔ ∃ row ∈ t.rows.entries, row.1.toNat = length ∧ row.2 = rule := by
  rw [get?]
  constructor
  · intro h
    split at h
    · next hlt =>
      exact ⟨_, SortedMap.get?_eq_some_iff.1 h, UInt64.toNat_ofNat_of_lt' hlt, rfl⟩
    · cases h
  · rintro ⟨⟨key, rule⟩, hmem, rfl, rfl⟩
    rw [if_pos key.toNat_lt, UInt64.ofNat_toNat]
    exact SortedMap.get?_eq_some_iff.2 hmem

/-- The rule for a length is that of its row or, if there is no row, the fallback. -/
theorem ruleFor_eq_ok_iff :
    t.ruleFor length = .ok choice ↔
      (t.get? length = some choice.rule ∧ choice.source = .row length) ∨
        (t.get? length = none ∧ t.fallback = some choice.rule ∧ choice.source = .fallback) := by
  obtain ⟨source, rule⟩ := choice
  unfold ruleFor
  cases hrow : t.get? length with
  | some rule' => simp [and_comm, eq_comm]
  | none =>
    cases hfallback : t.fallback with
    | none => simp
    | some rule' => simp [and_comm, eq_comm]

/-- There is neither a row for the length nor a fallback. -/
def LacksRule (t : RuleTable) (length : Nat) : Prop := t.get? length = none ∧ t.fallback = none

instance : Decidable (t.LacksRule length) := inferInstanceAs (Decidable (_ ∧ _))

/-- Lengths without a rule are the only cause to fail. -/
theorem ruleFor_eq_error_iff {e : Error} :
    t.ruleFor length = .error e ↔ t.LacksRule length ∧ e = .noRule length := by
  unfold ruleFor LacksRule
  cases t.get? length with
  | some rule => simp
  | none =>
    cases t.fallback with
    | some rule => simp
    | none =>
      simp only [and_self, true_and, Except.error.injEq]
      exact eq_comm

/-- A table is faultless if its rows and its fallback are. -/
theorem fault?_eq_none_iff :
    t.fault? = none ↔
      (∀ row ∈ t.rows.entries, rowFault? row = none) ∧ fallbackFault? t.fallback = none := by
  rw [fault?, Option.or_eq_none_iff, List.findSome?_eq_none_iff]

section Faultless

variable (h : t.fault? = none)

include h

theorem rowFault?_of_get? (hrow : t.get? length = some rule) :
    ∃ key : UInt64, key.toNat = length ∧ rowFault? (key, rule) = none := by
  obtain ⟨⟨key, rule⟩, hmem, hkey, rfl⟩ := get?_eq_some_iff.1 hrow
  exact ⟨key, hkey, (fault?_eq_none_iff.1 h).1 _ hmem⟩

/-- A row that trims leaves something. -/
theorem trim_lt_of_get? (hrow : t.get? length = some (.offsetTrim leading trailing)) :
    leading.toNat + trailing.toNat < length := by
  obtain ⟨key, rfl, hfault⟩ := rowFault?_of_get? h hrow
  simpa [rowFault?] using hfault

/-- A row for single frames asks for a core. -/
theorem leastCore_pos_of_get? (hrow : t.get? length = some (.singleFrame leastCore)) :
    0 < leastCore.toNat := by
  obtain ⟨key, -, hfault⟩ := rowFault?_of_get? h hrow
  have hne : leastCore ≠ 0 := by simpa [rowFault?] using hfault
  exact Nat.pos_of_ne_zero fun hzero => hne (UInt64.toNat_inj.1 hzero)

theorem fallback_ne_offsetTrim : t.fallback ≠ some (.offsetTrim leading trailing) := by
  intro hfallback
  have hfault := (fault?_eq_none_iff.1 h).2
  rw [hfallback] at hfault
  cases hfault

/-- A rule that trims is that of a row, and leaves something. -/
theorem row_of_ruleFor (hchoice : t.ruleFor length = .ok choice)
    (hrule : choice.rule = .offsetTrim leading trailing) :
    choice.source = .row length ∧ leading.toNat + trailing.toNat < length := by
  rcases ruleFor_eq_ok_iff.1 hchoice with ⟨hrow, hsource⟩ | ⟨-, hfallback, -⟩
  · exact ⟨hsource, trim_lt_of_get? h (hrule ▸ hrow)⟩
  · exact absurd (hrule ▸ hfallback) (fallback_ne_offsetTrim h)

end Faultless

end MeterBridge.RuleTable
