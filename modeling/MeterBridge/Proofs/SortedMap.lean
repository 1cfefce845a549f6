import MeterBridge.SortedMap
import Mathlib.Algebra.BigOperators.Group.List.Basic
import Mathlib.Algebra.GroupWithZero.Nat

/-!
# Keys, order of changes and sums

A sorted map gives a key the value that one of its entries has (`get?_eq_some_iff`), and its keys are
an ascending list without repetitions, so that the first one is the least and the last one the greatest.
Values of different keys can be changed in either order (`alter_comm`). Counting one more under a key
adds one to every sum of counts that the key belongs to (`sumWhere_alter`).
-/

namespace MeterBridge

/-! ### Ascending lists -/

section Ascending

variable {α : Type} [LT α] [Std.Irrefl (α := α) (· < ·)] [Trans (α := α) (· < ·) (· < ·) (· < ·)]
  {l : List α} {a : α}

theorem not_lt_of_lt {b : α} (h : a < b) : ¬ b < a := fun hba =>
  Std.Irrefl.irrefl (r := (· < ·)) a (Std.lt_trans h hba)

/-- The first of an ascending list is its least. -/
theorem head?_eq_some_iff_of_pairwise (h : l.Pairwise (· < ·)) :
    l.head? = some a ↔ a ∈ l ∧ ∀ b ∈ l, ¬ b < a := by
  cases l with
  | nil => simp
  | cons first rest =>
    have hrest := (List.pairwise_cons.1 h).1
    rw [List.head?_cons, Option.some_inj]
    constructor
    · rintro rfl
      refine ⟨List.mem_cons_self, fun b hb => ?_⟩
      rcases List.mem_cons.1 hb with rfl | hb
      · exact Std.Irrefl.irrefl (r := (· < ·)) b
      · exact not_lt_of_lt (hrest b hb)
    · rintro ⟨ha, hleast⟩
      rcases List.mem_cons.1 ha with rfl | ha
      · rfl
      · exact absurd (hrest a ha) (hleast first List.mem_cons_self)

/-- The last of an ascending list is its greatest. -/
theorem getLast?_eq_some_iff_of_pairwise (h : l.Pairwise (· < ·)) :
    l.getLast? = some a ↔ a ∈ l ∧ ∀ b ∈ l, ¬ a < b := by
  rcases List.eq_nil_or_concat l with rfl | ⟨front, last, rfl⟩
  · simp
  · have hfront : ∀ b ∈ front, b < last := by
      intro b hb
      rw [List.concat_eq_append] at h
      exact (List.pairwise_append.1 h).2.2 b hb last List.mem_cons_self
    rw [List.concat_eq_append, List.getLast?_concat, Option.some_inj]
    constructor
    · rintro rfl
      refine ⟨List.mem_append_right _ List.mem_cons_self, fun b hb => ?_⟩
      rcases List.mem_append.1 hb with hb | hb
      · exact not_lt_of_lt (hfront b hb)
      · rw [List.mem_singleton.1 hb]
        exact Std.Irrefl.irrefl (r := (· < ·)) last
    · rintro ⟨ha, hgreatest⟩
      rcases List.mem_append.1 ha with ha | ha
      · exact absurd (hfront a ha) (hgreatest last (List.mem_append_right _ List.mem_cons_self))
      · exact (List.mem_singleton.1 ha).symm

/-- Where keys ascend, what comes first has the least key. -/
theorem idxOf_le_idxOf_iff_of_pairwise {β : Type} [DecidableEq β] {key : β → α} {bs : List β} {b b' : β}
    (h : bs.Pairwise fun b b' => key b < key b') (hb : b ∈ bs) (hb' : b' ∈ bs) :
    bs.idxOf b ≤ bs.idxOf b' ↔ ¬ key b' < key b := by
  have hi := List.idxOf_lt_length_of_mem hb
  have hi' := List.idxOf_lt_length_of_mem hb'
  have hascending := List.pairwise_iff_getElem.1 h
  rcases Nat.lt_trichotomy (bs.idxOf b) (bs.idxOf b') with hlt | heq | hlt
  · have hkeys := hascending _ _ hi hi' hlt
    rw [List.getElem_idxOf, List.getElem_idxOf] at hkeys
    exact iff_of_true (Nat.le_of_lt hlt) (not_lt_of_lt hkeys)
  · rw [(List.idxOf_inj hb).1 heq]
    exact iff_of_true (Nat.le_refl _) (Std.Irrefl.irrefl (r := (· < ·)) (key b'))
  · have hkeys := hascending _ _ hi' hi hlt
    rw [List.getElem_idxOf, List.getElem_idxOf] at hkeys
    exact iff_of_false (Nat.not_le.2 hlt) (not_not_intro hkeys)

end Ascending

namespace SortedMap

variable {κ ν : Type} [LT κ]

/-! ### Entries and keys -/

section Keys

/-- The keys, in ascending order. -/
def keys (m : SortedMap κ ν) : List κ := m.entries.map (·.1)

theorem pairwise_keys (m : SortedMap κ ν) : m.keys.Pairwise (· < ·) :=
  List.pairwise_map.2 m.ascending

variable [Std.Irrefl (α := κ) (· < ·)]

theorem nodup_keys (m : SortedMap κ ν) : m.keys.Nodup := by
  refine m.pairwise_keys.imp ?_
  rintro a _ hlt rfl
  exact Std.Irrefl.irrefl (r := (· < ·)) a hlt

variable [DecidableEq κ]

/-- A key has the value of its entry. -/
theorem find?_eq_some_iff {key : κ} {value : ν} {entries : List (κ × ν)}
    (h : entries.Pairwise (·.1 < ·.1)) : find? key entries = some value ↔ (key, value) ∈ entries := by
  induction entries with
  | nil => simp [find?]
  | cons entry rest ih =>
    obtain ⟨hfirst, hrest⟩ := List.pairwise_cons.1 h
    obtain ⟨k, v⟩ := entry
    rw [find?, List.mem_cons, Prod.mk.injEq]
    by_cases hk : key = k
    · -- No other entry has the key of the first one.
      have hnot : (key, value) ∉ rest := fun hmem =>
        Std.Irrefl.irrefl (r := (· < ·)) k (by simpa [hk] using hfirst _ hmem)
      simp only [hk, if_true, Option.some_inj, true_and]
      rw [hk] at hnot
      constructor
      · exact fun heq => .inl heq.symm
      · rintro (heq | hmem)
        · exact heq.symm
        · exact absurd hmem hnot
    · simp only [hk, if_false, false_and, false_or]
      exact ih hrest

theorem get?_eq_some_iff {m : SortedMap κ ν} {key : κ} {value : ν} :
    m.get? key = some value ↔ (key, value) ∈ m.entries :=
  find?_eq_some_iff m.ascending

theorem mem_keys {m : SortedMap κ ν} {key : κ} : key ∈ m.keys ↔ (m.get? key).isSome := by
  rw [Option.isSome_iff_exists]
  simp only [get?_eq_some_iff]
  constructor
  · intro h
    obtain ⟨⟨k, v⟩, hmem, rfl⟩ := List.mem_map.1 h
    exact ⟨v, hmem⟩
  · rintro ⟨value, hmem⟩
    exact List.mem_map_of_mem hmem

end Keys

/-! ### Changes -/

section Changes

variable [DecidableEq κ] [DecidableLT κ] [Trans (α := κ) (· < ·) (· < ·) (· < ·)]
  [Std.Trichotomous (α := κ) (· < ·)] [Std.Irrefl (α := κ) (· < ·)]

theorem mem_keys_alter {m : SortedMap κ ν} {key k : κ} {f : Option ν → ν} :
    k ∈ (m.alter key f).keys ↔ k = key ∨ k ∈ m.keys := by
  rw [mem_keys, mem_keys, get?_alter]
  by_cases hk : k = key
  · simp [hk]
  · simp [hk]

/-- Two changes that do not meet, or that commute where they do, can be made in either order. -/
theorem alter_comm (m : SortedMap κ ν) {key key' : κ} {f g : Option ν → ν}
    (h : key = key' → ∀ value, g (some (f value)) = f (some (g value))) :
    (m.alter key f).alter key' g = (m.alter key' g).alter key f := by
  refine ext_get? fun k => ?_
  by_cases hkeys : key = key'
  · subst hkeys
    by_cases hk : k = key
    · simp only [get?_alter, hk, if_true, h rfl]
    · simp only [get?_alter, hk, if_false]
  · by_cases hk : k = key
    · subst hk
      simp only [get?_alter, hkeys, Ne.symm hkeys, if_true, if_false]
    · simp only [get?_alter, hk, Ne.symm hkeys, if_false]

theorem insert_comm (m : SortedMap κ ν) {key key' : κ} {value : ν} :
    (m.insert key value).insert key' value = (m.insert key' value).insert key value :=
  m.alter_comm fun _ _ => rfl

/-- Entries put into a map in ascending order take the place of those that it has. -/
theorem get?_foldl_insert {entries : List (κ × ν)} (h : entries.Pairwise (·.1 < ·.1)) (m : SortedMap κ ν)
    (k : κ) : (entries.foldl (fun m entry => m.insert entry.1 entry.2) m).get? k =
      (find? k entries).or (m.get? k) := by
  induction entries generalizing m with
  | nil => rfl
  | cons entry rest ih =>
    obtain ⟨hfirst, hrest⟩ := List.pairwise_cons.1 h
    rw [List.foldl_cons, ih hrest, insert, get?_alter, find?]
    by_cases hk : k = entry.1
    · rw [if_pos hk, if_pos hk, hk, find?_eq_none_of_lt hfirst, Option.none_or, Option.some_or]
    · rw [if_neg hk, if_neg hk]

/-- The entries of a map make up the map. -/
theorem ofList_entries (m : SortedMap κ ν) : ofList m.entries = m :=
  ext_get? fun k => (get?_foldl_insert m.ascending empty k).trans Option.or_none

end Changes

/-! ### Sums of counts -/

section Sums

/-- The sum of the counts under some keys. -/
def sumWhere (m : SortedMap κ Nat) (p : κ → Bool) : Nat :=
  ((m.entries.filter fun entry => p entry.1).map (·.2)).sum

theorem sumWhere_true (m : SortedMap κ Nat) : m.sumWhere (fun _ => true) = (m.entries.map (·.2)).sum := by
  rw [sumWhere, List.filter_eq_self.2 fun _ _ => rfl]

variable [DecidableEq κ] [DecidableLT κ]

theorem sum_alterEntries (key : κ) (p : κ → Bool) {f : Option Nat → Nat}
    (hf : ∀ count, f count = count.getD 0 + 1) (entries : List (κ × Nat)) :
    (((alterEntries key f entries).filter fun entry => p entry.1).map (·.2)).sum =
      ((entries.filter fun entry => p entry.1).map (·.2)).sum + if p key then 1 else 0 := by
  fun_induction alterEntries key f entries with
  | case1 => cases hp : p key <;> simp [hp, hf]
  | case2 k v rest hlt =>
    rw [List.filter_cons]
    split
    · rw [List.map_cons, List.sum_cons, hf, Option.getD_none]
      omega
    · rfl
  | case3 v rest hlt =>
    rw [List.filter_cons, List.filter_cons]
    split
    · rw [List.map_cons, List.sum_cons, List.map_cons, List.sum_cons, hf, Option.getD_some]
      omega
    · rfl
  | case4 k v rest hlt hne ih =>
    rw [List.filter_cons, List.filter_cons]
    split
    · rw [List.map_cons, List.sum_cons, List.map_cons, List.sum_cons, ih]
      omega
    · exact ih

variable [Trans (α := κ) (· < ·) (· < ·) (· < ·)] [Std.Trichotomous (α := κ) (· < ·)]

/-- One more under a key is one more in the sums that the key belongs to. -/
theorem sumWhere_alter (m : SortedMap κ Nat) (key : κ) (p : κ → Bool) {f : Option Nat → Nat}
    (hf : ∀ count, f count = count.getD 0 + 1) :
    (m.alter key f).sumWhere p = m.sumWhere p + if p key then 1 else 0 :=
  sum_alterEntries key p hf m.entries

end Sums

end SortedMap

end MeterBridge
