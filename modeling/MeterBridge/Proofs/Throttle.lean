import MeterBridge.Proofs.Address
import MeterBridge.Throttle
import Mathlib.Data.List.DropRight

/-!
# Banks of throttles

A bank is asked for one thing after the other: requests in categories, new windows for single categories,
and new windows for all of them. While no window runs out, a throttle has counted the requests in its
category since the category has been reset (`requestsSince`), no matter when it was made and what has been
asked of the others.

* `Tracks.after`, `tracks_afterAll` — this is kept by every step, and so it holds after all of them.
* `Machine.afterAll_eq` — with fewer requests than a word of 32 bits can count, a bank that counts in such
  words does the same.
* `isThrottled_of_inWindow` — a request is let through if and only if fewer requests than the cap have been
  made in its category since the last reset.
-/

namespace MeterBridge

namespace Throttle

/-- As long as its window has not run out, a throttle goes on counting. -/
theorem allow_of_not_hasExpired {t : Throttle} {now : Nat} (h : t.hasExpired now = false) :
    t.allow now = (decide (t.count < t.cap), { t with count := t.count + 1 }) := by
  rw [allow, h]
  rfl

namespace Bank

/-- What can be asked of a bank. -/
inductive Command (κ : Type) where
  /-- A request in a category. -/
  | allow (category : κ)
  /-- A new window for a category. -/
  | reset (category : κ)
  /-- New windows for all categories used so far. -/
  | resetAll
  deriving DecidableEq

/-- What is asked of a bank at a time. -/
structure Step (κ : Type) where
  /-- The reading of the clock. -/
  time : Nat
  /-- What is asked. -/
  command : Command κ
  deriving DecidableEq

/-- All steps lie in one window. -/
def InWindow {κ : Type} (window : Nat) (steps : List (Step κ)) : Prop :=
  steps.Pairwise fun earlier later => later.time ≤ earlier.time + window

instance {κ : Type} (window : Nat) (steps : List (Step κ)) : Decidable (InWindow window steps) :=
  inferInstanceAs (Decidable (steps.Pairwise _))

variable {κ : Type} [DecidableEq κ]

/-- The command begins a new window for a category. -/
def Command.resets (category : κ) : Command κ → Bool
  | .allow _ => false
  | .reset other => other = category
  | .resetAll => true

/-- The bank after a step. -/
def after (b : Bank κ) (s : Step κ) : Bank κ :=
  match s.command with
  | .allow category => (b.allow category s.time).2
  | .reset category => b.reset category s.time
  | .resetAll => b.resetAll s.time

/-- The bank after all steps. -/
def afterAll (b : Bank κ) (steps : List (Step κ)) : Bank κ := steps.foldl after b

/-- How many requests have been made in a category since it was last reset, or from the beginning. -/
def requestsSince (category : κ) (steps : List (Step κ)) : Nat :=
  (steps.rtakeWhile fun s => !s.command.resets category).countP fun s => s.command = .allow category

/-- A word of 32 bits can count the requests in every category between its resets. -/
def IsCountable (steps : List (Step κ)) : Prop :=
  ∀ (category : κ) (before : List (Step κ)), before <+: steps →
    requestsSince category before < UInt32.size

variable {b : Bank κ} {category other : κ} {steps : List (Step κ)} {s : Step κ} {t : Throttle}
  {window cap now time : Nat}

/-! ### Requests since the last reset -/

theorem requestsSince_concat_of_resets (h : s.command.resets category = true) :
    requestsSince category (steps ++ [s]) = 0 := by
  rw [requestsSince, List.rtakeWhile_concat_neg _ _ _ (by rw [h]; decide)]
  rfl

theorem requestsSince_concat (h : s.command.resets category = false) :
    requestsSince category (steps ++ [s]) =
      requestsSince category steps + if s.command = .allow category then 1 else 0 := by
  rw [requestsSince, List.rtakeWhile_concat_pos _ _ _ (by rw [h]; rfl), List.countP_append,
    List.countP_singleton, requestsSince]
  simp only [decide_eq_true_eq]

theorem requestsSince_concat_allow :
    requestsSince category (steps ++ [⟨time, .allow category⟩]) = requestsSince category steps + 1 := by
  rw [requestsSince_concat rfl, if_pos rfl]

/-- What is asked of another category does not count. -/
theorem requestsSince_concat_of_ne (h : other ≠ category) :
    requestsSince category (steps ++ [⟨time, .allow other⟩]) = requestsSince category steps ∧
      requestsSince category (steps ++ [⟨time, .reset other⟩]) = requestsSince category steps := by
  constructor
  · rw [requestsSince_concat rfl, if_neg fun hcommand => h (Command.allow.inj hcommand), Nat.add_zero]
  · have hresets : Command.resets category (.reset other) = false := decide_eq_false h
    rw [requestsSince_concat hresets, if_neg nofun, Nat.add_zero]

theorem requestsSince_le_length (category : κ) (steps : List (Step κ)) :
    requestsSince category steps ≤ steps.length :=
  List.countP_le_length.trans (List.rtakeWhile_suffix _ _).length_le

/-- If nothing resets a category, all requests in it count. -/
theorem requestsSince_eq_countP (h : ∀ s ∈ steps, s.command.resets category = false) :
    requestsSince category steps = steps.countP fun s => s.command = .allow category := by
  rw [requestsSince, List.rtakeWhile_eq_self_iff.2 fun s hs => by rw [h s hs]; rfl]

theorem isCountable_of_length_lt (h : steps.length < UInt32.size) : IsCountable steps :=
  fun category before hbefore =>
    ((requestsSince_le_length category before).trans hbefore.length_le).trans_lt h

/-! ### One category among others -/

theorem get_set_self (b : Bank κ) (category : κ) (t : Throttle) (now : Nat) :
    (b.set category t).get category now = t := by
  rw [get, set, List.lookup_cons_self]
  rfl

theorem get_set_of_ne (h : other ≠ category) (t : Throttle) :
    (b.set other t).get category now = b.get category now := by
  have hlookup : (b.set other t).throttles.lookup category = b.throttles.lookup category := by
    rw [set, List.lookup_cons, beq_false_of_ne h.symm]
    dsimp only
    induction b.throttles with
    | nil => rfl
    | cons entry rest ih =>
      by_cases hentry : entry.1 = other
      · have hne : (category == entry.1) = false := beq_false_of_ne (hentry ▸ h.symm)
        rw [List.filter_cons_of_neg (by simpa using hentry), ih, List.lookup_cons, hne]
      · rw [List.filter_cons_of_pos (by simpa using hentry), List.lookup_cons, List.lookup_cons, ih]
  rw [get, hlookup, get]
  rfl

/-- After a reset of all throttles a throttle is as if it had been reset, then or, if its category has not
been used, now. -/
theorem get_resetAll (b : Bank κ) (category : κ) (time now : Nat) :
    ∃ start, (start = time ∨ start = now) ∧
      (b.resetAll time).get category now = (b.get category now).reset start := by
  have hlookup : (b.resetAll time).throttles.lookup category =
      (b.throttles.lookup category).map (·.reset time) := by
    rw [resetAll]
    induction b.throttles with
    | nil => rfl
    | cons entry rest ih =>
      rw [List.map_cons, List.lookup_cons, List.lookup_cons, ih]
      split <;> rfl
  rw [get, hlookup, get]
  cases b.throttles.lookup category with
  | none => exact ⟨now, .inr rfl, rfl⟩
  | some t => exact ⟨time, .inl rfl, rfl⟩

/-! ### Steps -/

/-- This is the throttle of a category now, after some steps: it has counted the requests in its
category. -/
structure Counts (window cap : Nat) (steps : List (Step κ)) (category : κ) (now : Nat) (t : Throttle) :
    Prop where
  /-- Its window is that of the bank. -/
  window_eq : t.window = window
  /-- So is its cap. -/
  cap_eq : t.cap = cap
  /-- It has counted the requests since the last reset. -/
  count_eq : t.count = requestsSince category steps
  /-- Its window has begun with one of the steps, or begins now. -/
  start_eq : t.start = now ∨ ∃ s ∈ steps, t.start = s.time

/-- Each throttle of the bank has counted the requests in its category. -/
def Tracks (window cap : Nat) (steps : List (Step κ)) (b : Bank κ) : Prop :=
  ∀ category now, Counts window cap steps category now (b.get category now)

namespace Counts

variable (h : Counts window cap steps category now t)

include h

theorem hasExpired_eq_false (hwindow : ∀ s ∈ steps, now ≤ s.time + window) :
    t.hasExpired now = false := by
  refine decide_eq_false ?_
  rw [h.window_eq]
  rcases h.start_eq with hstart | ⟨s, hs, hstart⟩
  · omega
  · have hnow := hwindow s hs
    omega

/-- A step that leaves a category alone changes nothing for it. -/
theorem concat (hs : requestsSince category (steps ++ [s]) = requestsSince category steps) :
    Counts window cap (steps ++ [s]) category now t where
  window_eq := h.window_eq
  cap_eq := h.cap_eq
  count_eq := h.count_eq.trans hs.symm
  start_eq := h.start_eq.imp_right fun ⟨x, hx, hstart⟩ => ⟨x, List.mem_append_left _ hx, hstart⟩

/-- A reset begins a new window with its step, or, for a category that has not been used, now. -/
theorem reset (hs : s.command.resets category = true) {start later : Nat}
    (hstart : start = s.time ∨ start = later) :
    Counts window cap (steps ++ [s]) category later (t.reset start) where
  window_eq := h.window_eq
  cap_eq := h.cap_eq
  count_eq := (requestsSince_concat_of_resets hs).symm
  start_eq := hstart.symm.imp_right fun hstart => ⟨s, List.mem_append_right _ (.head _), hstart⟩

/-- A request is counted. -/
theorem request (later : Nat) :
    Counts window cap (steps ++ [⟨now, .allow category⟩]) category later
      { t with count := t.count + 1 } where
  window_eq := h.window_eq
  cap_eq := h.cap_eq
  count_eq := by rw [requestsSince_concat_allow, h.count_eq]
  start_eq := by
    refine .inr ?_
    rcases h.start_eq with hstart | ⟨x, hx, hstart⟩
    · exact ⟨_, List.mem_append_right _ (.head _), hstart⟩
    · exact ⟨x, List.mem_append_left _ hx, hstart⟩

end Counts

theorem tracks_new (window cap : Nat) : Tracks window cap ([] : List (Step κ)) (new window cap) :=
  fun _ _ => ⟨rfl, rfl, rfl, .inl rfl⟩

namespace Tracks

variable (h : Tracks window cap steps b)

include h

/-- What becomes of a request inside the window. -/
theorem allow_eq (hwindow : ∀ s ∈ steps, now ≤ s.time + window) (category : κ) :
    b.allow category now = (decide (requestsSince category steps < cap),
      b.set category { b.get category now with count := (b.get category now).count + 1 }) := by
  have hcounts := h category now
  rw [allow, allow_of_not_hasExpired (hcounts.hasExpired_eq_false hwindow), ← hcounts.count_eq,
    ← hcounts.cap_eq]

/-- It is let through if fewer than the cap came before it. -/
theorem allow_iff (hwindow : ∀ s ∈ steps, now ≤ s.time + window) (category : κ) :
    (b.allow category now).1 = true ↔ requestsSince category steps < cap := by
  rw [h.allow_eq hwindow]
  exact decide_eq_true_iff

/-- Every step inside the window is tracked. -/
theorem after (hwindow : ∀ x ∈ steps, s.time ≤ x.time + window) :
    Tracks window cap (steps ++ [s]) (b.after s) := by
  obtain ⟨time, command⟩ := s
  intro category later
  cases command with
  | allow other =>
    have hafter : b.after ⟨time, .allow other⟩ =
        b.set other { b.get other time with count := (b.get other time).count + 1 } :=
      congrArg Prod.snd (h.allow_eq hwindow other)
    rw [hafter]
    by_cases hcategory : other = category
    · subst hcategory
      rw [get_set_self]
      exact (h other time).request later
    · rw [get_set_of_ne hcategory]
      exact (h category later).concat (requestsSince_concat_of_ne hcategory).1
  | reset other =>
    have hafter : b.after ⟨time, .reset other⟩ = b.set other ((b.get other time).reset time) := rfl
    rw [hafter]
    by_cases hcategory : other = category
    · subst hcategory
      rw [get_set_self]
      have hresets : Command.resets other (.reset other) = true := decide_eq_true rfl
      exact (h other time).reset hresets (.inl rfl)
    · rw [get_set_of_ne hcategory]
      exact (h category later).concat (requestsSince_concat_of_ne hcategory).2
  | resetAll =>
    obtain ⟨start, hstart, hget⟩ := b.get_resetAll category time later
    have hafter : b.after ⟨time, .resetAll⟩ = b.resetAll time := rfl
    rw [hafter, hget]
    exact (h category later).reset rfl hstart

end Tracks

/-! ### All steps -/

omit [DecidableEq κ] in
theorem inWindow_concat :
    InWindow window (steps ++ [s]) ↔ InWindow window steps ∧ ∀ x ∈ steps, s.time ≤ x.time + window := by
  rw [InWindow, List.pairwise_append]
  simp [InWindow]

theorem afterAll_concat (b : Bank κ) (steps : List (Step κ)) (s : Step κ) :
    b.afterAll (steps ++ [s]) = (b.afterAll steps).after s := List.foldl_concat ..

/-- Inside one window a new bank tracks all steps. -/
theorem tracks_afterAll (h : InWindow window steps) (cap : Nat) :
    Tracks window cap steps ((new window cap).afterAll steps) := by
  induction steps using List.reverseRecOn with
  | nil => exact tracks_new window cap
  | append_singleton steps s ih =>
    obtain ⟨hsteps, hs⟩ := inWindow_concat.1 h
    rw [afterAll_concat]
    exact (ih hsteps).after hs

end Bank

end Throttle

/-! ### Words -/

namespace Machine

open Throttle (Bank)
open Throttle.Bank (Step)

variable {κ : Type} [DecidableEq κ] {window cap : Nat} {steps : List (Step κ)}

/-- A request to a throttle that counts in a word. -/
def allow (t : Throttle) (now : Nat) : Except Fault (Bool × Throttle) := do
  let t := if t.hasExpired now then t.reset now else t
  let count ← word (t.count + 1)
  return (count.toNat ≤ t.cap, { t with count := count.toNat })

/-- A request in a category. -/
def request (b : Bank κ) (category : κ) (now : Nat) : Except Fault (Bool × Bank κ) := do
  let (allowed, t) ← allow (b.get category now) now
  return (allowed, b.set category t)

/-- The bank after a step. -/
def after (b : Bank κ) (s : Step κ) : Except Fault (Bank κ) :=
  match s.command with
  | .allow category => return (← request b category s.time).2
  | .reset category => return b.reset category s.time
  | .resetAll => return b.resetAll s.time

/-- The bank after all steps. -/
def afterAll (b : Bank κ) (steps : List (Step κ)) : Except Fault (Bank κ) := steps.foldlM after b

theorem allow_eq {t : Throttle} (h : t.count + 1 < UInt32.size) (now : Nat) :
    allow t now = .ok (t.allow now) := by
  rw [allow, Throttle.allow]
  -- A new window has fewer requests still.
  have hcount : (if t.hasExpired now then t.reset now else t).count + 1 < UInt32.size := by
    split
    · exact show 0 + 1 < UInt32.size by decide
    · exact h
  generalize (if t.hasExpired now then t.reset now else t) = t at hcount ⊢
  have hword : (UInt32.ofNat (t.count + 1)).toNat = t.count + 1 := UInt32.toNat_ofNat_of_lt' hcount
  simp only [word_eq hcount, bind, Except.bind, pure, Except.pure, hword, Nat.add_one_le_iff]

theorem request_eq {b : Bank κ} {category : κ} {now : Nat}
    (h : (b.get category now).count + 1 < UInt32.size) :
    request b category now = .ok (b.allow category now) := by
  rw [request, allow_eq h]
  rfl

/-- Words are enough for a step, if they are enough for the requests up to it. -/
theorem after_eq {b : Bank κ} {s : Step κ} (h : b.Tracks window cap steps)
    (hcount : Bank.IsCountable (steps ++ [s])) : after b s = .ok (b.after s) := by
  obtain ⟨time, command⟩ := s
  cases command with
  | allow category =>
    have hrequests := hcount category _ (List.prefix_refl _)
    rw [Bank.requestsSince_concat_allow, ← (h category time).count_eq] at hrequests
    simp only [after, request_eq hrequests]
    rfl
  | reset category => rfl
  | resetAll => rfl

/-- They are enough for all steps inside one window. -/
theorem afterAll_eq (hwindow : Bank.InWindow window steps) (hcount : Bank.IsCountable steps)
    (cap : Nat) : afterAll (.new window cap) steps = .ok ((Bank.new window cap).afterAll steps) := by
  induction steps using List.reverseRecOn with
  | nil => rfl
  | append_singleton steps s ih =>
    have hsteps := (Bank.inWindow_concat.1 hwindow).1
    have hbefore := ih hsteps fun category before hupto =>
      hcount category before (hupto.trans (List.prefix_append _ _))
    rw [afterAll] at hbefore ⊢
    rw [List.foldlM_append, hbefore, Bank.afterAll_concat]
    exact (bind_pure _).trans (after_eq (Bank.tracks_afterAll hsteps cap) hcount)

end Machine

namespace Throttle.Bank

variable {κ : Type} [DecidableEq κ] {window now : Nat} {category : κ} {steps before rest : List (Step κ)}

/-- A request is throttled by the requests that were made in its category, whatever else was asked of the
bank before it. -/
structure IsThrottled (window cap : Nat) (before : List (Step κ)) (category : κ) (now : Nat) : Prop where
  /-- It is let through if fewer requests than the cap were made since the last reset, and only then. -/
  answer_iff : (((new window cap).afterAll before).allow category now).1 = true ↔
    requestsSince category before < cap
  /-- A bank that counts in words of 32 bits gives the same answer. -/
  machine_eq : (Machine.afterAll (new window cap) before >>= (Machine.request · category now)) =
    .ok (((new window cap).afterAll before).allow category now)

/-- Every request inside one window is throttled like this. -/
theorem isThrottled_of_inWindow (hwindow : InWindow window steps) (hcount : IsCountable steps) (cap : Nat)
    (hsteps : before ++ ⟨now, .allow category⟩ :: rest = steps) :
    IsThrottled window cap before category now := by
  -- What is asked after the request does not matter.
  have hupto : before ++ [⟨now, .allow category⟩] <+: steps := ⟨rest, by rw [← hsteps]; simp⟩
  obtain ⟨hbefore, hnow⟩ := inWindow_concat.1 (hwindow.sublist hupto.sublist)
  have htracks := tracks_afterAll hbefore cap
  constructor
  · exact htracks.allow_iff hnow category
  · have hrequests := hcount category _ hupto
    rw [requestsSince_concat_allow, ← (htracks category now).count_eq] at hrequests
    rw [Machine.afterAll_eq hbefore fun other earlier hearlier =>
      hcount other earlier (hearlier.trans ((List.prefix_append _ _).trans hupto))]
    exact Machine.request_eq hrequests

end Throttle.Bank

end MeterBridge
