import MeterBridge.Output

/-!
# Sinks that never fail

A sink is reliable if it takes every telegram and can always be flushed, in whatever state use has brought
it (`Reaches`). What is given to a reliable sink arrives there as a whole (`IsReliable.takeAll_eq`), so the
sink after a run is known from the telegrams alone. Collectors are reliable, and so are line writers
without a limit.
-/

namespace MeterBridge

namespace Sink

variable {σ : Type} [Sink σ] {sink s t : σ}

/-- The states that use can bring a sink into. -/
inductive Reaches (sink : σ) : σ → Prop where
  /-- The sink as it is. -/
  | refl : Reaches sink sink
  /-- A telegram is given to it. -/
  | take {s : σ} (t : Telegram) : Reaches sink s → Reaches sink (Sink.take s t).1
  /-- It is flushed. -/
  | flush {s : σ} : Reaches sink s → Reaches sink (Sink.flush s).1

theorem Reaches.trans (h : Reaches sink s) (h' : Reaches s t) : Reaches sink t := by
  induction h' with
  | refl => exact h
  | take u _ ih => exact ih.take u
  | flush _ ih => exact ih.flush

/-- The sink never fails. -/
structure IsReliable (sink : σ) : Prop where
  /-- It takes every telegram. -/
  takes : ∀ s, Reaches sink s → ∀ t, (Sink.take s t).2 = true
  /-- It can always be flushed. -/
  flushes : ∀ s, Reaches sink s → (Sink.flush s).2 = true

theorem IsReliable.of_reaches (h : IsReliable sink) (hs : Reaches sink s) : IsReliable s where
  takes u hu := h.takes u (hs.trans hu)
  flushes u hu := h.flushes u (hs.trans hu)

theorem IsReliable.take_eq (h : IsReliable sink) (t : Telegram) :
    Sink.take sink t = ((Sink.take sink t).1, true) := by
  rw [← h.takes sink .refl t]

theorem IsReliable.flush_eq (h : IsReliable sink) :
    Sink.flush sink = ((Sink.flush sink).1, true) := by
  rw [← h.flushes sink .refl]

/-! ### What is given to a sink -/

/-- The sink when these telegrams have been given to it. -/
def given (sink : σ) (ts : List Telegram) : σ := ts.foldl (fun s t => (Sink.take s t).1) sink

theorem given_append (sink : σ) (ts us : List Telegram) :
    given sink (ts ++ us) = given (given sink ts) us := by
  simp only [given, List.foldl_append]

theorem reaches_given (sink : σ) (ts : List Telegram) : Reaches sink (given sink ts) := by
  induction ts generalizing sink with
  | nil => exact .refl
  | cons t ts ih => exact (Reaches.refl.take t).trans (ih _)

theorem IsReliable.given (h : IsReliable sink) (ts : List Telegram) : IsReliable (given sink ts) :=
  h.of_reaches (reaches_given sink ts)

/-- Telegrams can be given to a sink in two lots, if it takes the first one. -/
theorem takeAll_append (sink : σ) (ts us : List Telegram) :
    takeAll sink (ts ++ us) =
      if (takeAll sink ts).2 then takeAll (takeAll sink ts).1 us else takeAll sink ts := by
  induction ts generalizing sink with
  | nil => rfl
  | cons t ts ih =>
    rw [List.cons_append, takeAll, takeAll]
    rcases take sink t with ⟨sink', taken⟩
    cases taken with
    | true => exact ih sink'
    | false => rfl

/-- A reliable sink takes all that is given to it. -/
theorem IsReliable.takeAll_eq (h : IsReliable sink) (ts : List Telegram) :
    Sink.takeAll sink ts = (Sink.given sink ts, true) := by
  induction ts generalizing sink with
  | nil => rfl
  | cons t ts ih =>
    rw [Sink.takeAll, h.take_eq t]
    exact ih (h.of_reaches (Reaches.refl.take t))

end Sink

/-! ### Collectors and line writers -/

theorem Collector.isReliable (c : Collector) : Sink.IsReliable c := ⟨fun _ _ _ => rfl, fun _ _ => rfl⟩

/-- A collector has everything that is given to it. -/
theorem Collector.toList_given (c : Collector) (ts : List Telegram) :
    (Sink.given c ts).telegrams.toList = c.telegrams.toList ++ ts := by
  induction ts generalizing c with
  | nil => exact (List.append_nil _).symm
  | cons t ts ih =>
    refine (ih ⟨c.telegrams.push t⟩).trans ?_
    rw [Array.toList_push, List.append_assoc, List.singleton_append]

namespace LineWriter

/-- Without a limit at the start there is none later. -/
theorem room_of_reaches {w w' : LineWriter} (h : Sink.Reaches w w') (hw : w.room = none) :
    w'.room = none := by
  induction h with
  | refl => exact hw
  | take t _ ih =>
    change (LineWriter.take _ t).1.room = none
    simp only [take, ih]
  | flush _ ih => exact ih

/-- A writer without a limit is reliable. -/
theorem isReliable {w : LineWriter} (hw : w.room = none) : Sink.IsReliable w where
  takes w' h t := by
    have hroom := room_of_reaches h hw
    change (LineWriter.take w' t).2 = true
    simp only [take, hroom]
  flushes _ _ := rfl

end LineWriter

end MeterBridge
