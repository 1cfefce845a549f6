import MeterBridge.Bytes

/-!
# Envelope headers

The content of an envelope begins with a type byte and a sequence byte. Under every type but the
standard one a third header byte follows, provided that at least one byte of content stands
behind it.
-/

namespace MeterBridge.Envelope

/-- The type of an envelope. -/
inductive Kind where
  /-- The type with a two-byte header. -/
  | standard
  /-- The type with a three-byte header. -/
  | extended
  /-- Any other type byte. -/
  | unknown (byte : UInt8)
  deriving DecidableEq, Repr

/-- The type that a byte names. -/
def Kind.ofByte (byte : UInt8) : Kind :=
  if byte = 0x11 then .standard else if byte = 0x25 then .extended else .unknown byte

/-- The byte that names a type. -/
def Kind.byte : Kind → UInt8
  | .standard => 0x11
  | .extended => 0x25
  | .unknown byte => byte

/-- The name of a type, with the byte in decimal if the type is unknown. -/
def Kind.text : Kind → String
  | .standard => "Standard"
  | .extended => "Extended"
  | .unknown byte => s!"Unknown({byte})"

/-- The header of an envelope. -/
structure Header where
  /-- The type. -/
  kind : Kind
  /-- The sequence byte. -/
  sequence : UInt8
  /-- The third byte of the header. -/
  extra : Option UInt8
  deriving DecidableEq, Repr

/-- The header at the start of the content; a single byte is too short for one. -/
def Header.ofContent? : Bytes → Option Header
  | kind :: sequence :: extra :: _ :: _ =>
    some { kind := .ofByte kind, sequence, extra := if kind = 0x11 then none else some extra }
  | kind :: sequence :: _ => some { kind := .ofByte kind, sequence, extra := none }
  | _ => none

/-- The number of bytes in a header. -/
def Header.length (h : Header) : Nat := if h.extra.isSome then 3 else 2

/-- The byte of the type that a byte names is this byte. -/
theorem Kind.byte_ofByte (b : UInt8) : (ofByte b).byte = b := by
  unfold ofByte
  split
  · simp [byte, *]
  · split <;> simp [byte, *]

/-- A header fits into the content that it was read from. -/
theorem Header.length_le {content : Bytes} {h : Header} (hh : ofContent? content = some h) :
    h.length ≤ content.length := by
  unfold ofContent? at hh
  split at hh
  · simp only [Option.some.injEq] at hh
    subst hh
    have : ∀ e : Option UInt8, (if e.isSome then 3 else 2) ≤ 3 := by
      intro e
      cases e <;> simp
    exact Nat.le_trans (this _) (by simp)
  · simp only [Option.some.injEq] at hh
    subst hh
    simp [length]
  · simp at hh

end MeterBridge.Envelope
