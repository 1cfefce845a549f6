import MeterBridge.Envelope
import MeterBridge.Proofs.Occurrence

/-!
# Stripping

What is an envelope (`isWrapped_iff`), and where the core lies in its payload: it is the slice that
begins at the core offset (`core_eq_slice`), and so is every slice of the core (`slice_core`). A payload
that does not begin with the first byte of an opening delimiter is its own core.
-/

namespace MeterBridge.Envelope

variable (payload : Bytes)

@[simp] theorem strip_payload : (strip payload).payload = payload := by
  rw [strip]
  split <;> rfl

@[simp] theorem strip_declaredLength : (strip payload).declaredLength = payload.length := by
  rw [Stripped.declaredLength, strip_payload]

@[simp] theorem strip_wrapped : (strip payload).wrapped = isWrapped payload := by
  rw [strip]
  split <;> simp_all

theorem strip_of_not_isWrapped {payload : Bytes} (h : isWrapped payload = false) :
    strip payload = { payload, core := payload, wrapped := false } := by
  rw [strip, h, if_neg Bool.false_ne_true]

theorem length_wrap (content : Bytes) : (wrap content).length = content.length + 8 := by
  simp [wrap, opening, closing]

theorem wrap_ne_nil (content : Bytes) : wrap content ≠ [] := by
  simp [wrap, opening]

theorem wrap_injective : Function.Injective wrap := by
  intro a b h
  exact List.append_cancel_left (List.append_cancel_right h)

/-- A payload is an envelope if and only if it is some content between the delimiters. -/
theorem isWrapped_iff {payload : Bytes} :
    isWrapped payload = true ↔ ∃ content, content ≠ [] ∧ payload = wrap content := by
  constructor
  · intro h
    simp only [isWrapped, Bool.and_eq_true, decide_eq_true_eq, List.isPrefixOf_iff_prefix,
      List.isSuffixOf_iff_suffix] at h
    obtain ⟨⟨hlong, rest, rfl⟩, hclosing⟩ := h
    rw [List.length_append] at hlong
    -- What stands behind the opening delimiter is longer than the closing one, so the two do not overlap.
    have hrest : closing <:+ rest :=
      List.suffix_of_suffix_length_le hclosing (List.suffix_append _ _) (by omega)
    obtain ⟨content, rfl⟩ := hrest
    refine ⟨content, ?_, (List.append_assoc _ _ _).symm⟩
    rintro rfl
    simp at hlong
  · rintro ⟨content, hne, rfl⟩
    rw [← strip_wrapped, strip_wrap hne]

/-- An envelope begins with the first byte of its opening delimiter. -/
theorem isWrapped_eq_false {payload : Bytes} (hbyte : payload.head? ≠ some 0xFB) :
    isWrapped payload = false := by
  rw [Bool.eq_false_iff]
  intro hwrapped
  obtain ⟨content, -, rfl⟩ := isWrapped_iff.1 hwrapped
  exact hbyte rfl

/-- An envelope is longer than its delimiters. -/
theorem lt_length_of_isWrapped {payload : Bytes} (h : isWrapped payload = true) :
    opening.length + closing.length < payload.length := by
  obtain ⟨content, hne, rfl⟩ := isWrapped_iff.1 h
  rw [length_wrap]
  exact Nat.lt_add_of_pos_left (List.length_pos_iff.2 hne)

/-- There is something in an envelope, and the delimiters are the rest of the payload. -/
theorem length_core_of_wrapped {payload : Bytes} (h : (strip payload).wrapped = true) :
    0 < (strip payload).core.length ∧ (strip payload).core.length + 8 = payload.length := by
  rw [strip_wrapped] at h
  obtain ⟨content, hne, rfl⟩ := isWrapped_iff.1 h
  rw [strip_wrap hne]
  exact ⟨List.length_pos_iff.2 hne, (length_wrap content).symm⟩

/-- Without an envelope the core is the payload. -/
theorem core_of_not_wrapped {payload : Bytes} (h : (strip payload).wrapped = false) :
    (strip payload).core = payload := by
  rw [strip_wrapped] at h
  rw [strip_of_not_isWrapped h]

/-- The core is a slice of the payload, from the core offset on. -/
theorem core_eq_slice :
    (strip payload).core =
        payload.slice (strip payload).coreOffset
          ((strip payload).coreOffset + (strip payload).core.length) ∧
      (strip payload).coreOffset + (strip payload).core.length ≤ payload.length := by
  cases hwrapped : isWrapped payload with
  | false =>
    rw [strip_of_not_isWrapped hwrapped]
    simp [Stripped.coreOffset, Bytes.slice_self]
  | true =>
    have hlong := lt_length_of_isWrapped hwrapped
    have hlength : (payload.slice opening.length (payload.length - closing.length)).length =
        payload.length - closing.length - opening.length :=
      Bytes.length_slice_of_le (Nat.sub_le _ _)
    have hstop : opening.length + (payload.length - closing.length - opening.length) =
        payload.length - closing.length := by omega
    simp only [strip, hwrapped, if_true, Stripped.coreOffset, hlength, hstop, true_and]
    exact Nat.sub_le _ _

theorem coreOffset_add_length_le :
    (strip payload).coreOffset + (strip payload).core.length ≤ payload.length :=
  (core_eq_slice payload).2

/-- A slice of the core is a slice of the payload. -/
theorem slice_core {payload : Bytes} {start stop : Nat} (h : stop ≤ (strip payload).core.length) :
    (strip payload).core.slice start stop =
      payload.slice ((strip payload).coreOffset + start) ((strip payload).coreOffset + stop) := by
  conv_lhs => rw [(core_eq_slice payload).1]
  exact Bytes.slice_slice (Nat.add_le_add_left h _)

end MeterBridge.Envelope
