import MeterBridge.Proofs.Receiver

/-!
# Packed frames

A bridge packs frames of the meter into one notification, with filler between them. `process_packed`
says that a receiver whose length rule is a scan gets all of them back, and nothing else: the frames
in their order, each where it was put. The bytes behind the address of a frame may be anything, also
anchors and delimiters, since the scan goes on behind the window of a frame; filler must not have a
byte with which an anchor begins.

* `Segment.IsSound` — what is asked of filler and of a frame.
* `scanned_join` — a scan cuts the frames of a packed core, whatever stands in front of it.
* `process_packed` — a receiver recovers the frames of a notification.
-/

namespace MeterBridge

/-- No pattern of the anchors is a prefix of another one. -/
def Config.IsPrefixFree (c : Config) : Prop :=
  ∀ a ∈ c.anchors, ∀ b ∈ c.anchors, a ≠ b → ¬ a.pattern <+: b.pattern

instance (c : Config) : Decidable c.IsPrefixFree :=
  inferInstanceAs (Decidable (∀ a ∈ c.anchors, ∀ b ∈ c.anchors, a ≠ b → ¬ a.pattern <+: b.pattern))

namespace Packing

open Anchor (Sighting)

/-- A part of a packed core. -/
inductive Segment where
  /-- Bytes of no meaning. -/
  | filler (bytes : Bytes)
  /-- A frame with this anchor; `tail` is what follows the address of the meter. -/
  | frame (anchor : Anchor) (tail : Bytes)

/-- A frame of the meter. -/
def frameBytes (m : Meter) (a : Anchor) (tail : Bytes) : Bytes := a.pattern ++ m.wire ++ tail

/-- The bytes of a segment. -/
def Segment.bytes (m : Meter) : Segment → Bytes
  | .filler bytes => bytes
  | .frame a tail => frameBytes m a tail

/-- The bytes of segments one behind the other. -/
def join (m : Meter) (segments : List Segment) : Bytes := segments.flatMap (Segment.bytes m)

/-- The frame fills the window of its anchor, and the anchor begins with the count of the window. -/
structure IsFrame (c : Config) (a : Anchor) (tail : Bytes) : Prop where
  /-- The anchor is one of the configuration. -/
  listed : a ∈ c.anchors
  /-- The pattern begins with the number of bytes behind its first one. -/
  counted : a.pattern.head?.map UInt8.toNat = some (a.window.toNat - 1)
  /-- The window is long enough for a telegram. -/
  longEnough : c.leastTelegram ≤ a.window
  /-- The frame has the length of the window. -/
  length_eq : (frameBytes c.meter a tail).length = a.window.toNat

/-- What is asked of a segment. -/
inductive Segment.IsSound (c : Config) : Segment → Prop where
  /-- No byte of filler is one with which an anchor begins. -/
  | filler {bytes : Bytes} : (∀ b ∈ bytes, ∀ a ∈ c.anchors, a.pattern.head? ≠ some b) →
      IsSound c (.filler bytes)
  /-- A frame fills its window. -/
  | frame {a : Anchor} {tail : Bytes} : IsFrame c a tail → IsSound c (.frame a tail)

/-- The telegrams of segments that begin at a position of the payload: one for each frame. -/
def telegramsFrom (m : Meter) (choice : Rule.Choice) : Nat → List Segment → List Telegram
  | _, [] => []
  | position, .filler bytes :: rest => telegramsFrom m choice (position + bytes.length) rest
  | position, .frame a tail :: rest =>
    { bytes := frameBytes m a tail, kind := a.kind, choice, offset := position } ::
      telegramsFrom m choice (position + (frameBytes m a tail).length) rest

/-- The payload carries the core from a position on. -/
inductive Carries : Bytes → Bytes → Nat → Prop where
  /-- In an envelope. -/
  | wrapped {core : Bytes} : core ≠ [] → Carries (Envelope.wrap core) core Envelope.opening.length
  /-- Bare, and not to be taken for an envelope. -/
  | bare {core : Bytes} : (Envelope.strip core).wrapped = false → Carries core core 0

theorem Carries.core_eq {payload core : Bytes} {start : Nat} (h : Carries payload core start) :
    (Envelope.strip payload).core = core := by
  cases h with
  | wrapped hne => rw [Envelope.strip_wrap hne]
  | bare hbare =>
    cases hwrapped : Envelope.isWrapped payload with
    | false => rw [Envelope.strip_of_not_isWrapped hwrapped]
    | true => simp [Envelope.strip, hwrapped] at hbare

theorem Carries.coreOffset_eq {payload core : Bytes} {start : Nat} (h : Carries payload core start) :
    (Envelope.strip payload).coreOffset = start := by
  cases h with
  | wrapped hne => rw [Envelope.strip_wrap hne]; rfl
  | bare hbare => rw [Envelope.Stripped.coreOffset, hbare]; rfl

/-! ### Where the anchors occur -/

variable {c : Config} {a : Anchor} {data tail : Bytes}

/-- Without prefixes among the patterns, an anchor that occurs at a place is the first that does. -/
theorem exists_isFirstFrom_of_isPrefixFree (hfree : c.IsPrefixFree) (ha : a ∈ c.anchors) {i : Nat}
    (hai : a.OccursAt data i) :
    ∃ s : Sighting, s.IsFirstFrom c.anchors data i ∧ s.offset = i ∧ s.anchor = a := by
  obtain ⟨s, hs, rfl⟩ := Anchor.exists_isFirstFrom ha hai
  refine ⟨s, hs, rfl, ?_⟩
  by_contra hne
  rcases List.prefix_or_prefix_of_prefix (Bytes.occursAt_iff_drop.1 hs.occurs.2)
    (Bytes.occursAt_iff_drop.1 hai.2) with h | h
  · exact hfree _ hs.mem _ ha hne h
  · exact hfree _ ha _ hs.mem (Ne.symm hne) h

/-- No anchor occurs where filler stands. -/
theorem not_occursAt_filler {front filler rest : Bytes}
    (hfiller : ∀ b ∈ filler, a.pattern.head? ≠ some b) {i : Nat} (hi : front.length ≤ i)
    (hlt : i < front.length + filler.length) : ¬ a.OccursAt (front ++ (filler ++ rest)) i := by
  rintro ⟨hne, hoccurs⟩
  obtain ⟨k, rfl⟩ := Nat.exists_eq_add_of_le hi
  have hk : k < filler.length := by omega
  have hhead := hoccurs.getElem?_eq_head? hne
  rw [List.getElem?_append_right hi, Nat.add_sub_cancel_left, List.getElem?_append_left hk,
    List.getElem?_eq_getElem hk] at hhead
  exact hfiller _ (List.getElem_mem hk) hhead.symm

section Frame

variable (hc : c.IsValid) (hframe : IsFrame c a tail)

include hc hframe

/-- The anchor of a frame occurs where the frame stands. -/
theorem IsFrame.occursAt (front rest : Bytes) :
    a.OccursAt (front ++ (frameBytes c.meter a tail ++ rest)) front.length := by
  refine ⟨(hc.usable hframe.listed).pattern_ne_nil, ?_⟩
  have hfront : Bytes.OccursAt a.pattern (frameBytes c.meter a tail ++ rest) 0 := by
    refine Bytes.occursAt_zero.2 ⟨c.meter.wire ++ tail ++ rest, ?_⟩
    simp only [frameBytes, List.append_assoc]
  exact Bytes.occursAt_append_add.2 hfront

/-- A frame passes the checks, as of the kind of its anchor. -/
theorem IsFrame.check_eq (hfree : c.IsPrefixFree) :
    c.check (frameBytes c.meter a tail) = .ok a.kind := by
  have hlong : c.LongEnough (frameBytes c.meter a tail) := by
    rw [Config.LongEnough, hframe.length_eq]
    exact UInt64.le_iff_toNat_le.1 hframe.longEnough
  have hcount : Config.CountsItself (frameBytes c.meter a tail) := by
    obtain ⟨b, rest, hpattern⟩ :=
      List.exists_cons_of_ne_nil (hc.usable hframe.listed).pattern_ne_nil
    rw [Config.CountsItself, hframe.length_eq, ← hframe.counted, frameBytes, hpattern]
    rfl
  have hoccurs := hframe.occursAt hc [] []
  rw [List.nil_append, List.append_nil] at hoccurs
  obtain ⟨s, hs, hoffset, rfl⟩ := exists_isFirstFrom_of_isPrefixFree hfree hframe.listed hoccurs
  exact Config.check_eq_ok_of_addressedBy hlong hcount
    ⟨hs.toIsFirstListed, hoffset, List.prefix_append _ _⟩

/-- A scan that has come to a frame cuts it. -/
theorem IsFrame.exists_cut (hfree : c.IsPrefixFree) {front rest core : Bytes}
    (hcore : core = front ++ (frameBytes c.meter a tail ++ rest))
    (hlength : core.length < Anchor.greatestPosition) :
    ∃ s : Sighting, s.IsFirstFrom c.anchors core front.length ∧ s.offset = front.length ∧
      s.anchor = a ∧ s.windowEnd = front.length + (frameBytes c.meter a tail).length ∧
        s.windowEnd ≤ core.length ∧ core.slice s.offset s.windowEnd = frameBytes c.meter a tail := by
  have hoccurs := hframe.occursAt hc front rest
  rw [← hcore] at hoccurs
  obtain ⟨s, hs, hoffset, rfl⟩ := exists_isFirstFrom_of_isPrefixFree hfree hframe.listed hoccurs
  have hcount : core.length =
      front.length + ((frameBytes c.meter s.anchor tail).length + rest.length) := by
    rw [hcore, List.length_append, List.length_append]
  have hend : s.windowEnd = front.length + (frameBytes c.meter s.anchor tail).length := by
    rw [Sighting.windowEnd, hoffset, ← hframe.length_eq]
    omega
  refine ⟨s, hs, hoffset, rfl, hend, by omega, ?_⟩
  rw [hend, hoffset, hcore, Bytes.slice_eq_take_drop, List.drop_left, Nat.add_sub_cancel_left,
    List.take_left]

end Frame

/-! ### Recovery -/

section Recovery

variable {segments : List Segment}

/-- A scan that has come to packed segments cuts their frames, and each of them is accepted. -/
theorem scanned_join (choice : Rule.Choice) (front : Bytes) {frame : Envelope.Stripped}
    (hc : c.IsValid) (hfree : c.IsPrefixFree) (hlength : frame.core.length < Anchor.greatestPosition)
    (hsound : ∀ s ∈ segments, s.IsSound c) (hcore : frame.core = front ++ join c.meter segments) :
    ∃ cuts, Extraction.Scanned c.anchors frame.core front.length cuts none ∧
      (cuts.map (Extraction.cut choice frame)).map c.judge =
        (telegramsFrom c.meter choice (frame.coreOffset + front.length) segments).map .ok := by
  induction segments generalizing front with
  | nil =>
    refine ⟨[], .exhausted fun a _ i hi hai => ?_, rfl⟩
    have hlt := hai.lt_length
    rw [hcore, join, List.flatMap_nil, List.append_nil] at hlt
    exact absurd hi (Nat.not_le.2 hlt)
  | cons segment rest ih =>
    have hbytes : frame.core = front ++ (segment.bytes c.meter ++ join c.meter rest) := hcore
    obtain ⟨cuts, hscanned, htelegrams⟩ := ih (front ++ segment.bytes c.meter)
      (fun s hs => hsound s (List.mem_cons_of_mem _ hs)) (by rw [List.append_assoc]; exact hbytes)
    rw [List.length_append] at hscanned htelegrams
    rw [← Nat.add_assoc] at htelegrams
    cases hsound segment List.mem_cons_self with
    | filler hfiller =>
      refine ⟨cuts, hscanned.of_skip (Nat.le_add_right _ _) fun a ha i hi hlt => ?_, htelegrams⟩
      rw [hbytes]
      exact not_occursAt_filler (fun b hb => hfiller b hb a ha) hi hlt
    | @frame a tail hframe =>
      obtain ⟨s, hs, hoffset, hanchor, hend, hle, hslice⟩ :=
        hframe.exists_cut hc hfree hbytes hlength
      have hlt : s.offset < s.windowEnd := by
        have := (hc.usable hframe.listed).wire_lt_window
        rw [hend, hoffset, hframe.length_eq]
        omega
      refine ⟨s :: cuts, .cut hs hle hlt (hend ▸ hscanned), ?_⟩
      have hjudge : c.judge (Extraction.cut choice frame s) =
          .ok { bytes := frameBytes c.meter a tail, kind := a.kind, choice
                offset := frame.coreOffset + front.length } := by
        simp only [Config.judge, Extraction.cut, hslice, hframe.check_eq hc hfree]
        rw [hoffset]
      rw [List.map_cons, List.map_cons, hjudge, htelegrams]
      rfl

/-- **Recovery**: the telegrams of a packed notification whose length selects a scan are its frames,
nothing is rejected and nothing is left over. A payload in memory is always shorter than the greatest
position. -/
theorem process_packed {r : Receiver} {n : Notification} {choice : Rule.Choice} {start : Nat}
    (hfree : r.config.IsPrefixFree) (hsound : ∀ s ∈ segments, s.IsSound r.config)
    (hcarries : Carries n.payload (join r.config.meter segments) start)
    (hchoice : r.config.rules.ruleFor n.payload.length = .ok choice)
    (hrule : choice.rule = .multiFrameScan) (hlength : n.payload.length < Anchor.greatestPosition) :
    ∃ o, (r.process n).1 = .ok o ∧
      o.telegrams = telegramsFrom r.config.meter choice start segments ∧
      o.rejections = [] ∧ o.extraction.hasIncompleteTail = false := by
  have hcore : (Envelope.strip n.payload).core.length < Anchor.greatestPosition := by
    have := Envelope.coreOffset_add_length_le n.payload
    omega
  obtain ⟨cuts, hscanned, htelegrams⟩ := scanned_join choice [] r.isValid hfree hcore hsound
    hcarries.core_eq
  rw [List.length_nil, Nat.add_zero, hcarries.coreOffset_eq] at htelegrams
  have houtcome : r.config.outcome n.payload = .ok
      { extraction := .ofScan choice n.payload cuts none
        verdicts := (telegramsFrom r.config.meter choice start segments).map .ok } :=
    Config.outcome_eq_ok_iff.2 ⟨Config.extract_of_scanned hchoice hrule hscanned, htelegrams.symm⟩
  refine ⟨_, (r.process_fst n).trans houtcome, ?_, ?_, rfl⟩
  · rw [Outcome.telegrams, List.filterMap_map]
    exact List.filterMap_some
  · rw [Outcome.rejections, List.filterMap_map]
    exact List.filterMap_eq_nil_iff.2 fun _ _ => rfl

/-- Filler, a compact frame with another anchor and an opening delimiter in its tail, a full frame
directly behind it, and filler with a byte from the middle of an anchor. -/
def disguised : List Segment :=
  [.filler [0x00, 0x26], .frame .compact ([0x25, 0x44, 0x2D, 0x2C] ++ Envelope.opening
      ++ List.replicate 20 0x30), .frame .full (List.replicate 39 0xFE), .filler [0x44]]

theorem isSound_disguised : ∀ s ∈ disguised, s.IsSound .standard := by
  simp only [disguised, List.forall_mem_cons, List.not_mem_nil, false_implies, implies_true, and_true]
  refine ⟨.filler ?_, .frame ⟨by decide, by decide, by decide, by decide⟩,
    .frame ⟨by decide, by decide, by decide, by decide⟩, .filler ?_⟩
  all_goals simp [Config.standard, Anchor.compact, Anchor.full]

/-- The disguised frames in an envelope. -/
def disguisedPayload : Bytes := Envelope.wrap (join .standard disguised)

theorem process_packed_disguised :
    ∃ o, (Receiver.standard.process (.arriving disguisedPayload "-")).1 = .ok o ∧
      o.telegrams.map (fun t => (t.kind, t.offset, t.bytes.length)) =
        [(.compact, 6, 38), (.full, 44, 49)] ∧
      o.rejections = [] ∧ o.extraction.hasIncompleteTail = false := by
  have hchoice : Config.standard.rules.ruleFor disguisedPayload.length =
      .ok ⟨.fallback, .multiFrameScan⟩ := by decide
  obtain ⟨o, hprocess, htelegrams, hrest⟩ :=
    process_packed (r := .standard) (n := .arriving disguisedPayload "-")
      (by decide) isSound_disguised (.wrapped (by decide)) hchoice rfl (by decide)
  exact ⟨o, hprocess, by rw [htelegrams]; decide, hrest⟩

end Recovery

end Packing

end MeterBridge
