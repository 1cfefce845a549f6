import MeterBridge.Envelope

/-!
# Envelopes inside a payload

A captured payload may hold several envelopes one after the other, with other bytes between them,
and the last one may have lost its closing delimiter. Reading goes from left to right: an envelope
begins at the next opening delimiter and ends at the next closing delimiter behind that, or with
the payload. Envelopes without content are passed over.
-/

namespace MeterBridge.Envelope

/-- An envelope found in a payload. -/
structure Span where
  /-- Where its opening delimiter stands. -/
  offset : Nat
  /-- What stands between its delimiters. -/
  content : Bytes
  /-- It has a closing delimiter. -/
  complete : Bool
  deriving DecidableEq, Repr

/-- The envelope as a list: none without content. -/
def Span.unlessEmpty (s : Span) : List Span := if s.content.isEmpty then [] else [s]

/-- The envelopes of the bytes that begin at `position` of the payload. -/
def spansFrom (position : Nat) (data : Bytes) : List Span :=
  match _h : opening.find? data with
  | none => []
  | some start =>
    let body := data.drop (start + opening.length)
    match closing.find? body with
    | none => Span.unlessEmpty ⟨position + start, body, false⟩
    | some stop =>
      let next := stop + closing.length
      Span.unlessEmpty ⟨position + start, body.take stop, true⟩
        ++ spansFrom (position + start + opening.length + next) (body.drop next)
termination_by data.length
decreasing_by
  have := Bytes.findFrom?_add_length_le _h
  simp only [List.length_drop]
  simp only [opening, List.length_cons, List.length_nil] at this ⊢
  omega

/-- The envelopes of a payload, from left to right. -/
def spans (payload : Bytes) : List Span := spansFrom 0 payload

end MeterBridge.Envelope
