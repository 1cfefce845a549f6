import MeterBridge.Extraction
import MeterBridge.Telegram.Fields

/-!
# Telegrams

A candidate is accepted as a telegram of the meter that is listened for if it passes four checks:
it is long enough, its first byte counts the bytes behind it, it begins with an anchor, and the
address of the meter follows the anchor. The checks are made in this order, and a candidate that
fails is rejected for the first one.
-/

namespace MeterBridge

/-- Why a candidate is rejected. -/
inductive Rejection.Reason where
  /-- It is shorter than the least telegram, or empty. -/
  | tooShort
  /-- It begins with no anchor. -/
  | badAnchor
  /-- Another address follows the anchor, or none. -/
  | idMismatch
  /-- Its first byte does not count the bytes behind it. -/
  | lengthByteMismatch
  deriving DecidableEq, Repr

/-- The name of a reason. -/
def Rejection.Reason.name : Rejection.Reason → String
  | .tooShort => "too-short"
  | .badAnchor => "bad-anchor"
  | .idMismatch => "id-mismatch"
  | .lengthByteMismatch => "length-byte-mismatch"

/-- The kind of telegram that the bytes are, or why they are none. -/
def Config.check (c : Config) (bytes : Bytes) : Except Rejection.Reason TelegramKind :=
  match bytes with
  | [] => .error .tooShort
  | lengthByte :: rest =>
    if bytes.length < c.leastTelegram.toNat then .error .tooShort
    else if lengthByte.toNat ≠ rest.length then .error .lengthByteMismatch
    else match Anchor.leading? c.anchors bytes with
      | none => .error .badAnchor
      | some s =>
        let start := s.anchor.pattern.length
        if bytes.slice start (start + Meter.wireLength) = c.meter.wire then .ok s.anchor.kind
        else .error .idMismatch

/-- An accepted candidate. -/
structure Telegram where
  /-- The bytes of the telegram. -/
  bytes : Bytes
  /-- The kind of the anchor it begins with. -/
  kind : TelegramKind
  /-- The rule that cut it. -/
  choice : Rule.Choice
  /-- Where it begins in the payload. -/
  offset : Nat
  deriving DecidableEq, Repr

namespace Telegram

/-- The telegram in hexadecimal. -/
def hex (t : Telegram) : String := Hex.encode t.bytes

/-- The link-layer fields, if the telegram is long enough for them. -/
def fields? (t : Telegram) : Option Fields := Fields.ofBytes? t.bytes

end Telegram

/-- A rejected candidate. -/
structure Rejection where
  /-- Why it is rejected. -/
  reason : Rejection.Reason
  /-- The candidate. -/
  candidate : Candidate
  deriving DecidableEq, Repr

/-- The rejection for people to read; of the candidate, its first eight bytes. -/
def Rejection.text (r : Rejection) : String :=
  let c := r.candidate
  s!"{r.reason.name}: {c.bytes.length} bytes at offset {c.offset} from {c.choice.text} "
    ++ s!"({Hex.encode (c.bytes.take 8)}...)"

/-- Accepts a candidate, or rejects it. -/
def Config.judge (c : Config) (candidate : Candidate) : Except Rejection Telegram :=
  match c.check candidate.bytes with
  | .error reason => .error { reason, candidate }
  | .ok kind =>
    .ok { bytes := candidate.bytes, kind, choice := candidate.choice, offset := candidate.offset }

end MeterBridge
