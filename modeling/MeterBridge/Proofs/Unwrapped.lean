import MeterBridge.Proofs.Capture

/-!
# Payloads without an envelope

A capture counts a payload as unwrapped if no envelope is read in it. Envelopes without content are passed
over, so such a payload may still have opening delimiters, with nothing behind them.

* `spans_eq_nil_iff` — no envelope is read if and only if each opening delimiter is followed by a closing one
  or by the end of the payload.
* `Capture.unwrapped_ofPayloads` — so the counter is the number of these payloads, and exceeds that of the
  payloads without an opening delimiter (`Capture.not_unwrapped_countP_lacks`).
-/

namespace MeterBridge

/-! ### Occurrences of a delimiter -/

/-- Behind bytes without it, an unbordered pattern that comes next occurs there and then behind that. -/
theorem Bytes.eq_or_le_of_occursAt {pattern front rest : Bytes} {i : Nat} (hu : IsUnbordered pattern)
    (hfront : front.Lacks pattern) (h : OccursAt pattern (front ++ (pattern ++ rest)) i) :
    i = front.length ∨ front.length + pattern.length ≤ i := by
  rcases Nat.lt_trichotomy i front.length with hlt | heq | hgt
  · exact absurd h (not_occursAt_of_lacks hu hfront hlt)
  · exact .inl heq
  · exact .inr (hu.add_length_le (occursAt_append_append pattern front rest) h hgt)

namespace Envelope

variable {payload gap content tail rest : Bytes} {i : Nat}

instance (payload : Bytes) : Decidable (payload.Lacks opening) :=
  decidable_of_iff _ (Bytes.find?_eq_none_iff_lacks opening_ne_nil)

/-- No opening delimiter begins inside a closing one. -/
theorem closing_le_of_occursAt (h : opening.OccursAt (closing ++ rest) i) : closing.length ≤ i := by
  refine Nat.le_of_not_lt fun hlt => ?_
  have hbyte := h.getElem?_eq_head? opening_ne_nil
  rw [List.getElem?_append_left hlt] at hbyte
  have hmem : (0xFB : UInt8) ∈ closing := List.mem_of_getElem? hbyte
  simp [closing] at hmem

/-! ### Nothing behind opening delimiters -/

/-- An envelope ends here: there is a closing delimiter, or the end of the payload. -/
def EndsAt (payload : Bytes) (i : Nat) : Prop := closing.OccursAt payload i ∨ i = payload.length

instance (payload : Bytes) (i : Nat) : Decidable (EndsAt payload i) :=
  inferInstanceAs (Decidable (_ ∨ _))

/-- Nothing stands behind the opening delimiters: each envelope ends where its content would begin. -/
def HoldsNothing (payload : Bytes) : Prop :=
  ∀ i < payload.length, opening.OccursAt payload i → EndsAt payload (i + opening.length)

instance (payload : Bytes) : Decidable (HoldsNothing payload) :=
  inferInstanceAs (Decidable (∀ i < payload.length, opening.OccursAt payload i →
    EndsAt payload (i + opening.length)))

theorem endsAt_append_add {front : Bytes} : EndsAt (front ++ rest) (front.length + i) ↔ EndsAt rest i := by
  rw [EndsAt, EndsAt, Bytes.occursAt_append_add, List.length_append, Nat.add_left_cancel_iff]

/-- Where content without a closing delimiter begins, the envelope ends only if there is no content. -/
theorem endsAt_zero_iff (h : content.Lacks closing) : EndsAt content 0 ↔ content = [] := by
  rw [EndsAt, or_iff_right (h 0), eq_comm, List.length_eq_zero_iff]

theorem endsAt_zero_append_iff (h : content.Lacks closing) :
    EndsAt (content ++ (closing ++ rest)) 0 ↔ content = [] := by
  constructor
  · rintro (hclosing | hend)
    · refine List.eq_nil_of_length_eq_zero (Nat.eq_zero_of_not_pos fun hpos => ?_)
      exact Bytes.not_occursAt_of_lacks isUnbordered_closing h hpos hclosing
    · simp [closing] at hend
  · rintro rfl
    exact .inl (Bytes.occursAt_zero.2 (List.prefix_append _ _))

theorem holdsNothing_iff :
    HoldsNothing payload ↔ ∀ i, opening.OccursAt payload i → EndsAt payload (i + opening.length) := by
  refine ⟨fun h i hi => h i ?_ hi, fun h i _ hi => h i hi⟩
  have hle := hi.add_length_le opening_ne_nil
  have hpos := List.length_pos_iff.2 opening_ne_nil
  omega

theorem holdsNothing_of_lacks (h : payload.Lacks opening) : HoldsNothing payload :=
  holdsNothing_iff.2 fun i hi => absurd hi (h i)

/-- What is behind some bytes holds nothing if all of it does. -/
theorem HoldsNothing.of_append {front : Bytes} (h : HoldsNothing (front ++ rest)) : HoldsNothing rest := by
  rw [holdsNothing_iff] at h ⊢
  intro i hi
  have hends := h _ (Bytes.occursAt_append_add.2 hi)
  rwa [Nat.add_assoc, endsAt_append_add] at hends

/-- A payload holds nothing if its first envelope ends at once and what stands behind that opening delimiter
holds nothing. -/
theorem holdsNothing_append_opening (hgap : gap.Lacks opening) :
    HoldsNothing (gap ++ (opening ++ rest)) ↔ EndsAt rest 0 ∧ HoldsNothing rest := by
  have hends : ∀ i, EndsAt (gap ++ (opening ++ rest)) (gap.length + (opening.length + i)) ↔ EndsAt rest i :=
    fun i => endsAt_append_add.trans endsAt_append_add
  constructor
  · intro h
    refine ⟨(hends 0).1 ?_, h.of_append.of_append⟩
    exact holdsNothing_iff.1 h _ (Bytes.occursAt_append_append opening gap rest)
  · rintro ⟨hzero, hrest⟩
    rw [holdsNothing_iff] at hrest ⊢
    intro i hi
    rcases Bytes.eq_or_le_of_occursAt isUnbordered_opening hgap hi with rfl | hle
    · exact (hends 0).2 hzero
    · obtain ⟨k, rfl⟩ := Nat.exists_eq_add_of_le hle
      rw [Nat.add_assoc, Bytes.occursAt_append_add, Bytes.occursAt_append_add] at hi
      have hk := (hends _).2 (hrest k hi)
      simpa only [Nat.add_assoc] using hk

/-- A closing delimiter in front changes nothing. -/
theorem holdsNothing_closing_append : HoldsNothing (closing ++ rest) ↔ HoldsNothing rest := by
  refine ⟨HoldsNothing.of_append, fun h => ?_⟩
  rw [holdsNothing_iff] at h ⊢
  intro i hi
  obtain ⟨k, rfl⟩ := Nat.exists_eq_add_of_le (closing_le_of_occursAt hi)
  rw [Nat.add_assoc, endsAt_append_add]
  exact h k (Bytes.occursAt_append_add.1 hi)

/-- An envelope holds nothing if its content is empty. -/
theorem holdsNothing_append_wrap (hgap : gap.Lacks opening) (hcontent : content.Lacks closing) :
    HoldsNothing (gap ++ (wrap content ++ rest)) ↔ content = [] ∧ HoldsNothing rest := by
  rw [wrap, List.append_assoc, List.append_assoc, holdsNothing_append_opening hgap,
    endsAt_zero_append_iff hcontent, and_congr_right_iff]
  rintro rfl
  exact holdsNothing_closing_append

/-! ### No envelope is read -/

theorem Span.unlessEmpty_eq_nil_iff {s : Span} : s.unlessEmpty = [] ↔ s.content = [] := by
  simp [Span.unlessEmpty]

namespace Layout

theorem completeSpans_eq_nil_iff {position : Nat} {envelopes : List (Bytes × Bytes)} :
    completeSpans position envelopes = [] ↔ ∀ e ∈ envelopes, e.2 = [] := by
  induction envelopes generalizing position with
  | nil => simp [completeSpans]
  | cons e envelopes ih =>
    rw [completeSpans, List.append_eq_nil_iff, Span.unlessEmpty_eq_nil_iff, ih, List.forall_mem_cons]

theorem tornSpan_eq_nil_iff {position : Nat} {tail : Option Bytes} :
    tornSpan position tail = [] ↔ ∀ t, tail = some t → t = [] := by
  cases tail with
  | none => simp [tornSpan]
  | some t => simp [tornSpan, Span.unlessEmpty_eq_nil_iff]

/-- A payload holds nothing if the envelopes of its layout are empty. -/
theorem IsSound.holdsNothing_bytes_iff {l : Layout} (h : l.IsSound) :
    HoldsNothing l.bytes ↔ (∀ e ∈ l.envelopes, e.2 = []) ∧ ∀ t, l.tail = some t → t = [] := by
  obtain ⟨envelopes, gap, tail⟩ := l
  induction envelopes with
  | nil =>
    cases tail with
    | none => simp [bytes, front, torn, holdsNothing_of_lacks h.gap]
    | some t =>
      have ht := h.tail t rfl
      have hnothing : t = [] → HoldsNothing t := by
        rintro rfl
        simp [HoldsNothing]
      simpa [bytes, front, torn, holdsNothing_append_opening h.gap, endsAt_zero_iff ht] using hnothing
  | cons e envelopes ih =>
    obtain ⟨hgap, hcontent, hrest⟩ := isSound_cons.1 h
    rw [bytes_cons, holdsNothing_append_wrap hgap hcontent, ih hrest, List.forall_mem_cons, and_assoc]

end Layout

/-- **No envelope is read if and only if there is nothing behind the opening delimiters.** -/
theorem spans_eq_nil_iff : spans payload = [] ↔ HoldsNothing payload := by
  obtain ⟨l, hsound, rfl⟩ := Layout.exists_isSound payload
  rw [hsound.spans_bytes, hsound.holdsNothing_bytes_iff, Layout.spans, List.append_eq_nil_iff,
    Layout.completeSpans_eq_nil_iff, Layout.tornSpan_eq_nil_iff]

end Envelope

/-! ### What is counted as unwrapped -/

namespace Capture

open Envelope (HoldsNothing opening spans)

theorem unwrapped_eq_countP (payloads : List Bytes) :
    (ofPayloads payloads).unwrapped = payloads.countP (HoldsNothing ·) := by
  rw [ofPayloads_eq, (counters_foldl_addSpan _ _).2.1]
  refine List.countP_congr fun payload _ => ?_
  rw [List.isEmpty_iff, Envelope.spans_eq_nil_iff, decide_eq_true_iff]

/-- **What is counted as unwrapped**: the payloads with nothing behind their opening delimiters. So the
counter exceeds the number of payloads without an opening delimiter by those that have one and hold nothing
nevertheless. -/
theorem unwrapped_ofPayloads (payloads : List Bytes) :
    (ofPayloads payloads).unwrapped = payloads.countP (HoldsNothing ·) ∧
      (ofPayloads payloads).unwrapped = payloads.countP (·.Lacks opening) +
        payloads.countP fun payload => HoldsNothing payload ∧ ¬ payload.Lacks opening := by
  refine ⟨unwrapped_eq_countP payloads, ?_⟩
  rw [unwrapped_eq_countP, List.countP_eq_countP_filter_add _ _ (·.Lacks opening), List.countP_filter,
    List.countP_filter]
  congr 1
  · refine List.countP_congr fun payload _ => ?_
    simpa using Envelope.holdsNothing_of_lacks
  · refine List.countP_congr fun payload _ => ?_
    simp

/-- Payloads without an opening delimiter are not all that is counted: an empty envelope has one. -/
theorem not_unwrapped_countP_lacks :
    ¬ ∀ payloads, (ofPayloads payloads).unwrapped = payloads.countP (·.Lacks opening) := by
  intro h
  have hempty := h [Envelope.wrap []]
  revert hempty
  decide +kernel

end Capture

end MeterBridge
