import MeterBridge.Proofs.Sighting
import MeterBridge.Proofs.Validity
import MeterBridge.Telegram

/-!
# Verdicts

What the checks of a candidate ask of its bytes, said without the checks. `IsTelegram` says that
the bytes pass all of them and `FirstFailure` names the first one that they fail; `check_eq_ok_iff`
and `check_eq_error_iff` say that a valid configuration decides exactly this.
-/

namespace MeterBridge.Config

open Anchor (Sighting)

variable {c : Config} {bytes : Bytes} {kind : TelegramKind} {reason : Rejection.Reason} {s : Sighting}

/-! ### What is asked of a telegram -/

/-- The bytes are no fewer than the least telegram has. -/
def LongEnough (c : Config) (bytes : Bytes) : Prop := c.leastTelegram.toNat ≤ bytes.length

/-- The first byte is the number of bytes behind it. -/
def CountsItself (bytes : Bytes) : Prop := bytes.head?.map UInt8.toNat = some (bytes.length - 1)

/-- The bytes begin with an anchor. -/
def Anchored (c : Config) (bytes : Bytes) : Prop := ∃ a ∈ c.anchors, a.pattern <+: bytes

/-- The sighting is at the front, of the first anchor in the list that the bytes begin with, and the
address of the meter follows. -/
structure AddressedBy (c : Config) (bytes : Bytes) (s : Sighting) : Prop
    extends s.IsFirstListed c.anchors bytes where
  /-- The anchor is at the front. -/
  offset_eq : s.offset = 0
  /-- The address follows it. -/
  followed : s.anchor.pattern ++ c.meter.wire <+: bytes

/-- The address of the meter follows the first anchor in the list that the bytes begin with. -/
def Addressed (c : Config) (bytes : Bytes) : Prop := ∃ s, c.AddressedBy bytes s

/-- The bytes are a telegram of the meter. -/
structure IsTelegram (c : Config) (bytes : Bytes) : Prop where
  /-- They are long enough. -/
  longEnough : c.LongEnough bytes
  /-- The first byte counts the others. -/
  countsItself : CountsItself bytes
  /-- They begin with an anchor. -/
  anchored : c.Anchored bytes
  /-- The address follows the first such anchor. -/
  addressed : c.Addressed bytes

/-- The reason is that of the first thing that the bytes lack of a telegram. -/
inductive FirstFailure (c : Config) (bytes : Bytes) : Rejection.Reason → Prop where
  /-- They are too short. -/
  | tooShort : ¬ c.LongEnough bytes → FirstFailure c bytes .tooShort
  /-- They are long enough, and the first byte miscounts. -/
  | lengthByteMismatch : c.LongEnough bytes → ¬ CountsItself bytes →
      FirstFailure c bytes .lengthByteMismatch
  /-- The first byte counts well, and they begin with no anchor. -/
  | badAnchor : c.LongEnough bytes → CountsItself bytes → ¬ c.Anchored bytes →
      FirstFailure c bytes .badAnchor
  /-- They begin with an anchor, and the address does not follow the first one. -/
  | idMismatch : c.LongEnough bytes → CountsItself bytes → c.Anchored bytes → ¬ c.Addressed bytes →
      FirstFailure c bytes .idMismatch

theorem countsItself_cons {b : UInt8} {rest : Bytes} :
    CountsItself (b :: rest) ↔ b.toNat = rest.length := by
  simp [CountsItself]

/-- Bytes whose first one counts the others are no more than a telegram can be. -/
theorem CountsItself.length_le (h : CountsItself bytes) : bytes.length ≤ longestTelegram := by
  cases bytes with
  | nil => exact Nat.zero_le _
  | cons b rest =>
    have hb := b.toNat_lt
    rw [countsItself_cons.1 h] at hb
    exact hb

theorem CountsItself.ne_nil (h : CountsItself bytes) : bytes ≠ [] := by
  rintro rfl
  cases h

/-! ### The checks -/

/-- What stands behind a pattern at the front is seen by a slice. -/
theorem append_isPrefix_iff {front field : Bytes} (h : front <+: bytes) :
    front ++ field <+: bytes ↔
      bytes.slice front.length (front.length + field.length) = field := by
  obtain ⟨rest, rfl⟩ := h
  rw [List.prefix_append_right_inj, Bytes.slice_eq_take_drop, List.drop_left,
    Nat.add_sub_cancel_left, List.prefix_iff_eq_take, eq_comm]

/-- Under a valid configuration the bytes begin with an anchor if one is found at the front. -/
theorem anchored_iff (hc : c.IsValid) : c.Anchored bytes ↔ ∃ a ∈ c.anchors, a.OccursAt bytes 0 := by
  refine exists_congr fun a => and_congr_right fun ha => ?_
  rw [Anchor.OccursAt, Bytes.occursAt_zero]
  exact (and_iff_right (hc.usable ha).pattern_ne_nil).symm

/-- The checks of bytes that are long enough and begin with their count look at the anchor. -/
theorem check_of_countsItself (hlong : c.LongEnough bytes) (hcount : CountsItself bytes) :
    c.check bytes =
      match Anchor.leading? c.anchors bytes with
      | none => .error .badAnchor
      | some s =>
        if bytes.slice s.anchor.pattern.length (s.anchor.pattern.length + Meter.wireLength) =
          c.meter.wire then .ok s.anchor.kind else .error .idMismatch := by
  cases bytes with
  | nil => cases hcount
  | cons b rest =>
    have hshort : ¬ (b :: rest).length < c.leastTelegram.toNat := Nat.not_lt.2 hlong
    exact (if_neg hshort).trans (if_neg fun h => h (countsItself_cons.1 hcount))

theorem check_eq_ok_of_addressedBy (hlong : c.LongEnough bytes) (hcount : CountsItself bytes)
    (hs : c.AddressedBy bytes s) : c.check bytes = .ok s.anchor.kind := by
  have hleading := Anchor.leading?_eq_some_iff.2 ⟨hs.offset_eq, hs.toIsFirstListed⟩
  have hprefix := (List.prefix_append _ _).trans hs.followed
  rw [check_of_countsItself hlong hcount, hleading]
  exact if_pos ((append_isPrefix_iff hprefix).1 hs.followed)

/-- The first failure is what the checks report. -/
theorem FirstFailure.check_eq (hc : c.IsValid) (h : c.FirstFailure bytes reason) :
    c.check bytes = .error reason := by
  cases h with
  | tooShort hshort =>
    cases bytes with
    | nil => rfl
    | cons b rest => rw [check, if_pos (Nat.lt_of_not_le hshort)]
  | lengthByteMismatch hlong hcount =>
    cases bytes with
    | nil =>
      have hpos := hc.leastTelegram_pos
      exact absurd hlong (Nat.not_le.2 hpos)
    | cons b rest =>
      rw [check, if_neg (Nat.not_lt.2 hlong), if_pos (fun h => hcount (countsItself_cons.2 h))]
  | badAnchor hlong hcount hanchor =>
    have hnone : Anchor.leading? c.anchors bytes = none :=
      Anchor.leading?_eq_none_iff.2 fun a ha hzero =>
        hanchor ((anchored_iff hc).2 ⟨a, ha, hzero⟩)
    rw [check_of_countsItself hlong hcount, hnone]
  | idMismatch hlong hcount hanchor haddress =>
    rw [check_of_countsItself hlong hcount]
    obtain ⟨a, ha, hzero⟩ := (anchored_iff hc).1 hanchor
    split
    · next hnone => exact absurd hzero (Anchor.leading?_eq_none_iff.1 hnone a ha)
    · next s hleading =>
      obtain ⟨hoffset, hs⟩ := Anchor.leading?_eq_some_iff.1 hleading
      have hprefix := Bytes.occursAt_zero.1 (hoffset ▸ hs.occurs.2)
      refine if_neg fun hslice => haddress ⟨s, hs, hoffset, ?_⟩
      exact (append_isPrefix_iff hprefix).2 hslice

/-- Bytes are a telegram, or they have a first failure. -/
theorem isTelegram_or_firstFailure (c : Config) (bytes : Bytes) :
    c.IsTelegram bytes ∨ ∃ reason, c.FirstFailure bytes reason := by
  by_cases hlong : c.LongEnough bytes
  · by_cases hcount : CountsItself bytes
    · by_cases hanchor : c.Anchored bytes
      · by_cases haddress : c.Addressed bytes
        · exact .inl ⟨hlong, hcount, hanchor, haddress⟩
        · exact .inr ⟨_, .idMismatch hlong hcount hanchor haddress⟩
      · exact .inr ⟨_, .badAnchor hlong hcount hanchor⟩
    · exact .inr ⟨_, .lengthByteMismatch hlong hcount⟩
  · exact .inr ⟨_, .tooShort hlong⟩

/-- **Acceptance**: the checks accept exactly the telegrams of the meter, each as of the kind of its
anchor. -/
theorem check_eq_ok_iff (hc : c.IsValid) :
    c.check bytes = .ok kind ↔
      c.LongEnough bytes ∧ CountsItself bytes ∧ ∃ s, c.AddressedBy bytes s ∧ s.anchor.kind = kind := by
  constructor
  · intro h
    rcases isTelegram_or_firstFailure c bytes with ht | ⟨reason, hf⟩
    · obtain ⟨s, hs⟩ := ht.addressed
      rw [check_eq_ok_of_addressedBy ht.longEnough ht.countsItself hs] at h
      exact ⟨ht.longEnough, ht.countsItself, s, hs, Except.ok.inj h⟩
    · rw [hf.check_eq hc] at h
      cases h
  · rintro ⟨hlong, hcount, s, hs, rfl⟩
    exact check_eq_ok_of_addressedBy hlong hcount hs

/-- **Rejection**: the checks report exactly the first failure. -/
theorem check_eq_error_iff (hc : c.IsValid) :
    c.check bytes = .error reason ↔ c.FirstFailure bytes reason := by
  refine ⟨fun h => ?_, fun h => h.check_eq hc⟩
  rcases isTelegram_or_firstFailure c bytes with ht | ⟨reason', hf⟩
  · obtain ⟨s, hs⟩ := ht.addressed
    rw [check_eq_ok_of_addressedBy ht.longEnough ht.countsItself hs] at h
    cases h
  · have hcheck := hf.check_eq hc
    rw [h] at hcheck
    cases hcheck
    exact hf

theorem isTelegram_iff (hc : c.IsValid) : c.IsTelegram bytes ↔ ∃ kind, c.check bytes = .ok kind := by
  constructor
  · intro ht
    obtain ⟨s, hs⟩ := ht.addressed
    exact ⟨_, check_eq_ok_of_addressedBy ht.longEnough ht.countsItself hs⟩
  · rintro ⟨kind, h⟩
    obtain ⟨hlong, hcount, s, hs, -⟩ := (check_eq_ok_iff hc).1 h
    have hanchor := (anchored_iff hc).2 ⟨s.anchor, hs.mem, hs.offset_eq ▸ hs.occurs⟩
    exact ⟨hlong, hcount, hanchor, s, hs⟩

end MeterBridge.Config
