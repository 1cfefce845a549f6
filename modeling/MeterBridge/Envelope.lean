import MeterBridge.Bytes

/-!
# Envelopes

A bridge repeats a telegram inside an envelope: an opening delimiter, a header of two or three
bytes with what follows it, and a closing delimiter. Some bridges send the content bare. `strip`
takes the outermost envelope away where there is one and never fails; `wrap` puts content into an
envelope. Delimiters with nothing between them are no envelope.
-/

namespace MeterBridge.Envelope

/-- The delimiter that opens an envelope. -/
def opening : Bytes := [0xFB, 0xFB, 0xFB, 0xF0]

/-- The delimiter that closes an envelope. -/
def closing : Bytes := [0xFE, 0xFE, 0x0E, 0x0F]

/-- The content between the two delimiters. -/
def wrap (content : Bytes) : Bytes := opening ++ content ++ closing

/-- The payload of a notification is an envelope with something in it. -/
def isWrapped (payload : Bytes) : Bool :=
  opening.length + closing.length < payload.length
    && opening.isPrefixOf payload && closing.isSuffixOf payload

/-- A payload and what is left of it without its envelope. -/
structure Stripped where
  /-- The payload as it was received. -/
  payload : Bytes
  /-- The content of the envelope, or the whole payload without one. -/
  core : Bytes
  /-- There was an envelope. -/
  wrapped : Bool
  deriving DecidableEq, Repr

/-- Takes the envelope away, if there is one. -/
def strip (payload : Bytes) : Stripped :=
  if isWrapped payload then
    { payload, wrapped := true,
      core := payload.slice opening.length (payload.length - closing.length) }
  else { payload, core := payload, wrapped := false }

/-- The length that selects the rule for a notification: that of the whole payload. -/
def Stripped.declaredLength (s : Stripped) : Nat := s.payload.length

/-- Where the core begins in the payload. -/
def Stripped.coreOffset (s : Stripped) : Nat := if s.wrapped then opening.length else 0

/-- An envelope gives back its content, unless it is empty. -/
theorem strip_wrap {content : Bytes} (h : content ≠ []) :
    strip (wrap content) = { payload := wrap content, core := content, wrapped := true } := by
  have hpos : 0 < content.length := List.length_pos_iff.2 h
  have hlength : (wrap content).length = content.length + 8 := by
    simp [wrap, opening, closing]
  have hopening : opening.isPrefixOf (wrap content) = true := by
    rw [List.isPrefixOf_iff_prefix]
    exact ⟨content ++ closing, by simp [wrap]⟩
  have hclosing : closing.isSuffixOf (wrap content) = true := by
    rw [List.isSuffixOf_iff_suffix]
    exact ⟨opening ++ content, rfl⟩
  have hwrapped : isWrapped (wrap content) = true := by
    simp only [isWrapped, hlength, hopening, hclosing, Bool.and_true, decide_eq_true_eq]
    simp only [opening, closing, List.length_cons, List.length_nil]
    omega
  have hcore : (wrap content).slice opening.length ((wrap content).length - closing.length)
      = content := by
    have htake : (wrap content).length - closing.length = (opening ++ content).length := by
      simp only [wrap, List.length_append]
      omega
    rw [Bytes.slice, htake, wrap, List.take_left, List.drop_left]
  simp only [strip, hwrapped, if_true, hcore]

end MeterBridge.Envelope
