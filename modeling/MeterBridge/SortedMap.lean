/-!
# Sorted maps

A finite map whose entries stand in strictly ascending order of their keys. There is one list of
entries for each map, so two maps with the same values are equal (`ext_get?`), and what a map
becomes by changing one value is said by what its values become (`get?_alter`).
-/

namespace MeterBridge

/-- A finite map, its entries in ascending order of their keys. -/
structure SortedMap (κ ν : Type) [LT κ] where
  /-- The keys with their values. -/
  entries : List (κ × ν)
  /-- No key occurs twice, and smaller keys come first. -/
  ascending : entries.Pairwise (·.1 < ·.1)
  deriving DecidableEq

namespace SortedMap

variable {κ ν : Type}

/-! ### Values in a list of entries -/

section Values

variable [DecidableEq κ]

/-- The value of a key in a list of entries. -/
def find? (key : κ) : List (κ × ν) → Option ν
  | [] => none
  | (k, v) :: rest => if key = k then some v else find? key rest

/-- A key that no entry has is not found. -/
theorem find?_eq_none {key : κ} {entries : List (κ × ν)}
    (h : ∀ entry ∈ entries, key ≠ entry.1) : find? key entries = none := by
  induction entries with
  | nil => rfl
  | cons entry rest ih =>
    rw [find?, if_neg (h entry List.mem_cons_self)]
    exact ih fun other hother => h other (List.mem_cons_of_mem _ hother)

variable [LT κ] [Std.Irrefl (α := κ) (· < ·)]

/-- A key less than all keys of the entries is not found. -/
theorem find?_eq_none_of_lt {key : κ} {entries : List (κ × ν)}
    (h : ∀ entry ∈ entries, key < entry.1) : find? key entries = none :=
  find?_eq_none fun entry hentry heq =>
    Std.Irrefl.irrefl (r := (· < ·)) key (heq ▸ h entry hentry)

variable [Trans (α := κ) (· < ·) (· < ·) (· < ·)]

/-- A key less than the first key of ascending entries is not found. -/
theorem find?_cons_eq_none_of_lt {key : κ} {entry : κ × ν} {rest : List (κ × ν)}
    (h : (entry :: rest).Pairwise (·.1 < ·.1)) (hlt : key < entry.1) :
    find? key (entry :: rest) = none := by
  refine find?_eq_none_of_lt fun other hother => ?_
  rcases List.mem_cons.1 hother with rfl | hother
  · exact hlt
  · exact Std.lt_trans hlt ((List.pairwise_cons.1 h).1 other hother)

variable [Std.Trichotomous (α := κ) (· < ·)]

/-- Ascending entries are determined by the values of all keys. -/
theorem eq_of_find?_eq {entries others : List (κ × ν)} (h : entries.Pairwise (·.1 < ·.1))
    (h' : others.Pairwise (·.1 < ·.1)) (heq : ∀ key, find? key entries = find? key others) :
    entries = others := by
  induction entries generalizing others with
  | nil =>
    cases others with
    | nil => rfl
    | cons entry _ => simpa [find?] using heq entry.1
  | cons entry rest ih =>
    cases others with
    | nil => simpa [find?] using heq entry.1
    | cons entry' rest' =>
      have hkey : entry.1 = entry'.1 := by
        refine Std.Trichotomous.trichotomous (r := (· < ·)) _ _ (fun hlt => ?_) fun hlt => ?_
        · have := heq entry.1
          rw [find?_cons_eq_none_of_lt h' hlt] at this
          simp [find?] at this
        · have := heq entry'.1
          rw [find?_cons_eq_none_of_lt h hlt] at this
          simp [find?] at this
      have hvalue : entry.2 = entry'.2 := by
        have := heq entry.1
        simpa [find?, hkey] using this
      have hrest : rest = rest' := by
        refine ih (List.pairwise_cons.1 h).2 (List.pairwise_cons.1 h').2 fun key => ?_
        by_cases hk : key = entry.1
        · rw [hk, find?_eq_none_of_lt (List.pairwise_cons.1 h).1, hkey,
            find?_eq_none_of_lt (List.pairwise_cons.1 h').1]
        · have := heq key
          rwa [find?, if_neg hk, find?, if_neg (hkey ▸ hk)] at this
      rw [hrest, Prod.ext hkey hvalue]

end Values

/-! ### Changing a list of entries -/

section Changes

variable [DecidableEq κ] [LT κ] [DecidableLT κ]

/-- The entries with another value for a key, made from the value that it has. -/
def alterEntries (key : κ) (f : Option ν → ν) : List (κ × ν) → List (κ × ν)
  | [] => [(key, f none)]
  | (k, v) :: rest =>
    if key < k then (key, f none) :: (k, v) :: rest
    else if key = k then (key, f (some v)) :: rest
    else (k, v) :: alterEntries key f rest

/-- The keys of the new entries are those of the old ones and the key that is given. -/
theorem key_of_mem_alterEntries {key : κ} {f : Option ν → ν} {entries : List (κ × ν)}
    {entry : κ × ν} (h : entry ∈ alterEntries key f entries) :
    entry.1 = key ∨ entry ∈ entries := by
  fun_induction alterEntries key f entries with
  | case1 => simp_all
  | case2 => exact (List.mem_cons.1 h).imp_left (congrArg Prod.fst)
  | case3 => exact (List.mem_cons.1 h).imp (congrArg Prod.fst) (List.mem_cons_of_mem _)
  | case4 k v rest _ _ ih =>
    rcases List.mem_cons.1 h with h | h
    · exact .inr (List.mem_cons.2 (.inl h))
    · exact (ih h).imp_right (List.mem_cons_of_mem _)

variable [Trans (α := κ) (· < ·) (· < ·) (· < ·)]

/-- Only the value of the key that is given changes. -/
theorem find?_alterEntries [Std.Irrefl (α := κ) (· < ·)] (key k : κ) (f : Option ν → ν)
    {entries : List (κ × ν)} (h : entries.Pairwise (·.1 < ·.1)) :
    find? k (alterEntries key f entries) =
      if k = key then some (f (find? key entries)) else find? k entries := by
  fun_induction alterEntries key f entries with
  | case1 => simp [find?]
  | case2 k' v rest hlt => rw [find?_cons_eq_none_of_lt h hlt, find?]
  | case3 v rest _ =>
    simp only [find?, if_true]
    split <;> rfl
  | case4 k' v rest hlt hne ih =>
    have ih := ih (List.pairwise_cons.1 h).2
    simp only [find?, if_neg hne, ih]
    by_cases hk : k = key
    · simp [hk, hne]
    · simp [hk]

variable [Std.Trichotomous (α := κ) (· < ·)]

/-- Changing a value keeps the order of the keys. -/
theorem pairwise_alterEntries (key : κ) (f : Option ν → ν) {entries : List (κ × ν)}
    (h : entries.Pairwise (·.1 < ·.1)) : (alterEntries key f entries).Pairwise (·.1 < ·.1) := by
  fun_induction alterEntries key f entries with
  | case1 => exact List.pairwise_singleton _ _
  | case2 k v rest hlt =>
    refine List.pairwise_cons.2 ⟨fun entry hentry => ?_, h⟩
    rcases List.mem_cons.1 hentry with rfl | hentry
    · exact hlt
    · exact Std.lt_trans hlt ((List.pairwise_cons.1 h).1 entry hentry)
  | case3 v rest _ => exact List.pairwise_cons.2 (List.pairwise_cons.1 h)
  | case4 k v rest hlt hne ih =>
    obtain ⟨hhead, hrest⟩ := List.pairwise_cons.1 h
    refine List.pairwise_cons.2 ⟨fun entry hentry => ?_, ih hrest⟩
    rcases key_of_mem_alterEntries hentry with hkey | hentry
    · rw [hkey]
      exact Classical.byContradiction fun hk => hne (Std.Trichotomous.trichotomous _ _ hlt hk)
    · exact hhead entry hentry

end Changes

/-! ### Maps -/

section Maps

variable [LT κ]

/-- The map without entries. -/
def empty : SortedMap κ ν := { entries := [], ascending := .nil }

instance : Inhabited (SortedMap κ ν) := ⟨empty⟩

variable [DecidableEq κ]

/-- The value of a key. -/
def get? (m : SortedMap κ ν) (key : κ) : Option ν := find? key m.entries

variable [Trans (α := κ) (· < ·) (· < ·) (· < ·)] [Std.Trichotomous (α := κ) (· < ·)]

/-- Maps with the same values are equal. -/
theorem ext_get? [Std.Irrefl (α := κ) (· < ·)] {m m' : SortedMap κ ν}
    (h : ∀ key, m.get? key = m'.get? key) : m = m' := by
  cases m
  cases m'
  congr
  exact eq_of_find?_eq ‹_› ‹_› h

variable [DecidableLT κ]

/-- The map with another value for a key, made from the value that it has. -/
def alter (m : SortedMap κ ν) (key : κ) (f : Option ν → ν) : SortedMap κ ν :=
  { entries := alterEntries key f m.entries, ascending := pairwise_alterEntries key f m.ascending }

/-- The map with a value for a key, in place of one that it has. -/
def insert (m : SortedMap κ ν) (key : κ) (value : ν) : SortedMap κ ν := m.alter key fun _ => value

/-- The map of some entries; of entries with one key the last one counts. -/
def ofList (entries : List (κ × ν)) : SortedMap κ ν :=
  entries.foldl (fun m entry => m.insert entry.1 entry.2) empty

/-- Only the value of the key that is given changes. -/
theorem get?_alter [Std.Irrefl (α := κ) (· < ·)] (m : SortedMap κ ν) (key k : κ)
    (f : Option ν → ν) :
    (m.alter key f).get? k = if k = key then some (f (m.get? key)) else m.get? k :=
  find?_alterEntries key k f m.ascending

end Maps

end SortedMap

end MeterBridge
