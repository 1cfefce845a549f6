import MeterBridge.Proofs.Envelope
import MeterBridge.Proofs.Layout

/-!
# Payloads in an envelope

`strip` looks at the two ends of a payload, `spans` reads it from the front. A payload that strips is `wrap`
of its core. From this follow

* `strip_strip` — one strip takes away one envelope. A second strip does nothing unless there is an envelope
  inside the envelope, and then it takes that away.
* `spans_agree_strip` — both readers see one envelope around everything, unless the core holds a closing
  delimiter, at which `spans` ends the envelope (`lacks_closing_of_mem_spans`).
-/

namespace MeterBridge.Envelope

variable {payload content : Bytes}

/-! ### Stripping twice -/

/-- There is something to take away a second time in an envelope around an envelope, and nowhere else. -/
theorem wrapped_core_iff :
    (strip (strip payload).core).wrapped = true ↔
      ∃ content, content ≠ [] ∧ payload = wrap (wrap content) := by
  rw [strip_wrapped]
  constructor
  · intro hcore
    cases hpayload : isWrapped payload with
    | false =>
      -- A bare payload is its own core.
      rw [strip_of_not_isWrapped hpayload, hpayload] at hcore
      cases hcore
    | true =>
      obtain ⟨outer, houter, rfl⟩ := isWrapped_iff.1 hpayload
      rw [strip_wrap houter] at hcore
      obtain ⟨content, hne, rfl⟩ := isWrapped_iff.1 hcore
      exact ⟨content, hne, rfl⟩
  · rintro ⟨content, hne, rfl⟩
    rw [strip_wrap (wrap_ne_nil content)]
    exact isWrapped_iff.2 ⟨content, hne, rfl⟩

/-- **A strip takes away one envelope.** To strip what is left of a payload changes nothing, unless the
payload is an envelope around an envelope; then the inner one is taken away. -/
theorem strip_strip (payload : Bytes) :
    ((strip (strip payload).core).wrapped = false ∧
        (strip (strip payload).core).core = (strip payload).core ↔
      ∀ content, content ≠ [] → payload ≠ wrap (wrap content)) ∧
    ∀ content, content ≠ [] → payload = wrap (wrap content) →
      strip (strip payload).core = { payload := wrap content, core := content, wrapped := true } := by
  refine ⟨⟨?_, ?_⟩, ?_⟩
  · rintro ⟨hcore, -⟩ content hne hpayload
    rw [wrapped_core_iff.2 ⟨content, hne, hpayload⟩] at hcore
    cases hcore
  · intro h
    have hcore : (strip (strip payload).core).wrapped = false := by
      rw [Bool.eq_false_iff]
      intro hwrapped
      obtain ⟨content, hne, hpayload⟩ := wrapped_core_iff.1 hwrapped
      exact h content hne hpayload
    exact ⟨hcore, core_of_not_wrapped hcore⟩
  · rintro content hne rfl
    rw [strip_wrap (wrap_ne_nil content), strip_wrap hne]

/-- Delimiters with nothing between them stay where they are; an envelope of one byte does not. -/
theorem strip_strip_smallest :
    ((strip (strip (wrap (wrap []))).core).wrapped = false ∧
        (strip (strip (wrap (wrap []))).core).core = (strip (wrap (wrap []))).core) ∧
      strip (strip (wrap (wrap [0x42]))).core =
        { payload := wrap [0x42], core := [0x42], wrapped := true } :=
  ⟨(strip_strip _).1.2 fun _ hne h => hne (wrap_injective (wrap_injective h)).symm,
    (strip_strip _).2 [0x42] (List.cons_ne_nil _ _) rfl⟩

/-- Stripping is not idempotent: an envelope in an envelope is taken away by the second strip. -/
theorem not_strip_idempotent :
    ¬ ∀ payload, (strip (strip payload).core).wrapped = false ∧
      (strip (strip payload).core).core = (strip payload).core := by
  intro h
  have hnested := (h (wrap (wrap [0x42]))).1
  rw [wrapped_core_iff.2 ⟨[0x42], List.cons_ne_nil _ _, rfl⟩] at hnested
  cases hnested

/-! ### One envelope around everything -/

/-- No content that is read holds a closing delimiter. -/
theorem lacks_closing_of_mem_spans {s : Span} (hs : s ∈ spans payload) : s.content.Lacks closing := by
  obtain ⟨l, hsound, rfl⟩ := Layout.exists_isSound payload
  rw [hsound.spans_bytes] at hs
  rcases List.mem_append.1 hs with hs | hs
  · obtain ⟨-, e, he, hcontent⟩ := Layout.of_mem_completeSpans hs
    rw [hcontent]
    exact hsound.contents e he
  · cases htail : l.tail with
    | none =>
      rw [htail] at hs
      cases hs
    | some tail =>
      rw [htail] at hs
      obtain ⟨rfl, -⟩ := Span.mem_unlessEmpty.1 hs
      exact hsound.tail tail htail

/-- The envelope begins with the payload and ends with it. -/
structure Span.Fills (s : Span) (payload : Bytes) : Prop where
  /-- It has a closing delimiter. -/
  complete : s.complete = true
  /-- It begins with the payload. -/
  offset_eq : s.offset = 0
  /-- There is nothing behind it: all of the payload but the delimiters is its content. -/
  length_eq : s.content.length = payload.length - 8

/-- A payload that an envelope fills is this envelope. -/
theorem Span.Fills.eq_wrap {s : Span} (h : s.Fills payload) (hs : s ∈ spans payload) :
    payload = wrap s.content := by
  have hapart := standApart_spans payload
  obtain ⟨i, hoffset, hoccurs⟩ := hapart.occurs s hs
  have hpos := List.length_pos_iff.2 (hapart.nonempty s hs)
  have hlength := h.length_eq
  rw [h.offset_eq, Nat.zero_add] at hoffset
  rw [← hoffset, Span.bytes, if_pos h.complete, Bytes.occursAt_zero] at hoccurs
  refine (hoccurs.eq_of_length ?_).symm
  rw [length_wrap]
  omega

/-- So it strips, and its core is the content that is read. -/
theorem Span.Fills.strip_eq {s : Span} (h : s.Fills payload) (hs : s ∈ spans payload) :
    strip payload = { payload, core := s.content, wrapped := true } := by
  have hne := (standApart_spans payload).nonempty s hs
  rw [h.eq_wrap hs, strip_wrap hne]

/-- Of an envelope whose content holds no closing delimiter all is read as one. -/
theorem spans_wrap (hne : content ≠ []) (hcontent : content.Lacks closing) :
    spans (wrap content) = [⟨0, content, true⟩] := by
  have hnil : Bytes.Lacks [] opening := by
    intro i hi
    have hle := hi.add_length_le opening_ne_nil
    simp [opening] at hle
  have hspans : spansFrom 0 ([] ++ (wrap content ++ [])) = Span.unlessEmpty ⟨0, content, true⟩ := by
    rw [spansFrom_append_wrap 0 hnil hcontent, spansFrom_of_lacks _ hnil, List.append_nil]
    rfl
  rw [List.nil_append, List.append_nil] at hspans
  rw [spans, hspans]
  simp [Span.unlessEmpty, hne]

/-- **The two readers agree on a single envelope.** One complete envelope around everything is read if and
only if the payload strips and no closing delimiter is in its core. Then the content is the core, and the
delimiters around it give the payload back. -/
theorem spans_agree_strip (payload : Bytes) :
    ((∃ s, spans payload = [s] ∧ s.Fills payload) ↔
      (strip payload).wrapped = true ∧ (strip payload).core.Lacks closing) ∧
    ∀ s, spans payload = [s] → s.Fills payload →
      s.content = (strip payload).core ∧ wrap s.content = payload := by
  refine ⟨⟨?_, ?_⟩, ?_⟩
  · rintro ⟨s, hs, hfills⟩
    have hmem : s ∈ spans payload := hs ▸ List.mem_singleton_self s
    rw [hfills.strip_eq hmem]
    exact ⟨rfl, lacks_closing_of_mem_spans hmem⟩
  · rintro ⟨hwrapped, hlacks⟩
    rw [strip_wrapped] at hwrapped
    obtain ⟨content, hne, rfl⟩ := isWrapped_iff.1 hwrapped
    rw [strip_wrap hne] at hlacks
    exact ⟨_, spans_wrap hne hlacks, rfl, rfl, by rw [length_wrap, Nat.add_sub_cancel]⟩
  · intro s hs hfills
    have hmem : s ∈ spans payload := hs ▸ List.mem_singleton_self s
    rw [hfills.strip_eq hmem]
    exact ⟨rfl, (hfills.eq_wrap hmem).symm⟩

/-- Content that begins with an opening delimiter, holds most of a closing one, and ends with the first half
of it. -/
def brimming : Bytes := opening ++ [0x11, 0xFE, 0xFE, 0x0E, 0x07, 0xFE, 0xFE]

theorem spans_agree_strip_brimming :
    ∃ s, spans (wrap brimming) = [s] ∧ s.Fills (wrap brimming) ∧
      s.content = (strip (wrap brimming)).core ∧ wrap s.content = wrap brimming := by
  have hlacks : (strip (wrap brimming)).core.Lacks closing :=
    (Bytes.find?_eq_none_iff_lacks closing_ne_nil).1 (by decide)
  obtain ⟨s, hs, hfills⟩ := (spans_agree_strip (wrap brimming)).1.2 ⟨by decide, hlacks⟩
  exact ⟨s, hs, hfills, (spans_agree_strip (wrap brimming)).2 s hs hfills⟩

end MeterBridge.Envelope
