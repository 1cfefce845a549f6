import MeterBridge.Text.Blank
import Mathlib.Data.List.TakeWhile

/-!
# Blanks around a text

Trimming is defined by dropping blanks from one end and then from the other. What it gives is fixed by what
it looks like: around it there are only blanks, and it neither begins nor ends with one (`Trims`,
`trims_iff`).
-/

namespace MeterBridge.Text

/-- This is left of a text without the blanks at both ends. -/
structure Trims (text trimmed : List Char) : Prop where
  /-- There are only blanks around it. -/
  blanks : ∃ front back, text = front ++ (trimmed ++ back) ∧ (∀ c ∈ front, isBlank c = true) ∧
    ∀ c ∈ back, isBlank c = true
  /-- It does not begin with a blank. -/
  head : ∀ c ∈ trimmed.head?, isBlank c = false
  /-- It does not end with a blank. -/
  last : ∀ c ∈ trimmed.getLast?, isBlank c = false

variable {text trimmed front rest : List Char}

/-- Only the blanks in front are dropped. -/
theorem dropWhile_isBlank_append (hfront : ∀ c ∈ front, isBlank c = true)
    (hrest : ∀ c ∈ rest.head?, isBlank c = false) : (front ++ rest).dropWhile isBlank = rest := by
  rw [List.dropWhile_append_of_pos hfront]
  cases rest with
  | nil => rfl
  | cons c rest => rw [List.dropWhile_cons_of_neg (by simp [hrest c rfl])]

theorem head?_dropWhile_isBlank : ∀ c ∈ (text.dropWhile isBlank).head?, isBlank c = false := by
  intro c hc
  have hnot := List.head?_dropWhile_not isBlank text
  rw [Option.mem_def.1 hc] at hnot
  simpa using hnot

theorem trims_trim (text : List Char) : Trims text (trim text) := by
  have hreverse : ∀ cs : List Char, cs = trimRight cs ++ (cs.reverse.takeWhile isBlank).reverse := by
    intro cs
    rw [trimRight, ← List.reverse_append, List.takeWhile_append_dropWhile, List.reverse_reverse]
  refine ⟨⟨text.takeWhile isBlank, ((trimLeft text).reverse.takeWhile isBlank).reverse, ?_,
    fun c hc => List.mem_takeWhile_imp hc, fun c hc => List.mem_takeWhile_imp (List.mem_reverse.1 hc)⟩,
    ?_, ?_⟩
  · rw [trim, ← hreverse, trimLeft, List.takeWhile_append_dropWhile]
  · intro c hc
    -- What the second end leaves begins like what the first one left.
    have hright : (trimRight (trimLeft text)).head? = some c := hc
    have hleft : (trimLeft text).head? = some c := by
      rw [hreverse (trimLeft text), List.head?_append, hright]
      rfl
    exact head?_dropWhile_isBlank c hleft
  · rw [trim, trimRight, List.getLast?_reverse]
    exact head?_dropWhile_isBlank

/-- **Trimming**, by what is left. -/
theorem trims_iff : Trims text trimmed ↔ trim text = trimmed := by
  constructor
  · rintro ⟨⟨front, back, rfl, hfront, hback⟩, hhead, hlast⟩
    cases trimmed with
    | nil =>
      -- There are only blanks, and the first end takes them all.
      have hnone : (front ++ back).dropWhile isBlank = [] :=
        List.dropWhile_eq_nil_iff.2 fun c hc => (List.mem_append.1 hc).elim (hfront c) (hback c)
      rw [List.nil_append, trim, trimLeft, hnone]
      rfl
    | cons c cs =>
      have hreverse : ((c :: cs) ++ back).reverse.dropWhile isBlank = (c :: cs).reverse := by
        rw [List.reverse_append]
        exact dropWhile_isBlank_append (fun c hc => hback c (List.mem_reverse.1 hc))
          (by rwa [List.head?_reverse])
      rw [trim, trimLeft, dropWhile_isBlank_append hfront (by simpa using hhead), trimRight, hreverse,
        List.reverse_reverse]
  · rintro rfl
    exact trims_trim text

/-- A text without blanks has none to lose. -/
theorem trim_eq_self (h : ∀ c ∈ text, isBlank c = false) : trim text = text :=
  trims_iff.1 ⟨⟨[], [], by simp⟩, fun c hc => h c (List.mem_of_mem_head? hc),
    fun c hc => h c (List.mem_of_mem_getLast? hc)⟩

/-- A blank at the end of a text does not count. -/
theorem trim_append_of_isBlank {c : Char} (h : isBlank c = true) (cs : List Char) :
    trim (cs ++ [c]) = trim cs := by
  obtain ⟨⟨front, back, hcs, hfront, hback⟩, hhead, hlast⟩ := trims_trim cs
  have hmore : cs ++ [c] = front ++ (trim cs ++ (back ++ [c])) :=
    (congrArg (· ++ [c]) hcs).trans (by simp only [List.append_assoc])
  exact trims_iff.1 ⟨⟨front, back ++ [c], hmore, hfront, by simpa [or_imp, forall_and, h] using hback⟩,
    hhead, hlast⟩

end MeterBridge.Text
