import MeterBridge.Capture
import MeterBridge.Proofs.Layout
import MeterBridge.Proofs.SortedMap
import Mathlib.Data.List.Dedup
import Mathlib.Data.List.Perm.Basic

/-!
# What capture tallies say

A capture is made of counters and maps that are filled on different branches, and all of them count the
envelopes of its payloads. The tallies of some payloads are those of all their envelopes in one row, with
the payloads and the unwrapped payloads counted apart from them (`ofPayloads_eq`). From this row follow

* `Capture.isConsistent_ofPayloads` — what the counters and maps say of each other, as one envelope after
  the other is tallied (`IsBalanced.addSpan`);
* `Capture.ofPayloads_perm` — the order of the payloads does not matter, because two envelopes can be
  tallied in either order (`addSpan_comm`).
-/

namespace MeterBridge

/-! ### Headers -/

namespace Envelope.Header

variable {content : Bytes} {h : Header}

/-- The bytes of a header. -/
def bytes (h : Header) : Bytes := h.kind.byte :: h.sequence :: h.extra.toList

/-- Two bytes are enough for a header. -/
theorem ofContent?_eq_none_iff : ofContent? content = none ↔ content.length < 2 := by
  fun_cases ofContent? content with
  | case1 kind sequence extra next rest => simp
  | case2 kind sequence rest => simp
  | case3 content hlong hshort =>
    simp only [true_iff]
    match content, hshort with
    | [], _ => exact Nat.zero_lt_two
    | [_], _ => exact Nat.one_lt_two
    | kind :: sequence :: rest, hshort => exact absurd rfl (hshort kind sequence rest)

/-- A header is what the content begins with. -/
theorem take_length (hh : ofContent? content = some h) : content.take h.length = h.bytes := by
  revert hh
  fun_cases ofContent? content with
  | case1 kind sequence extra next rest =>
    rintro ⟨⟩
    by_cases hkind : kind = 0x11
    · simp [bytes, length, hkind, Kind.byte_ofByte]
    · simp [bytes, length, hkind, Kind.byte_ofByte]
  | case2 kind sequence rest =>
    rintro ⟨⟩
    simp [bytes, length, Kind.byte_ofByte]
  | case3 =>
    intro hh
    cases hh

end Envelope.Header

/-! ### One row of envelopes -/

namespace Capture

open Envelope (Span Header spans)

variable {c : Capture} {span : Span} {header : Header}

/-- An envelope too short for a header. -/
theorem addSpan_of_none (c : Capture) (h : Header.ofContent? span.content = none) :
    c.addSpan span =
      { c with
        envelopes := c.envelopes + 1
        incomplete := c.incomplete + if span.complete then 0 else 1
        lengths := c.lengths.alter span.content.length increment
        tooShort := c.tooShort + 1 } := by
  simp only [addSpan, addHeader, h]
  split <;> rfl

/-- An envelope with a header. -/
theorem addSpan_of_some (c : Capture) (h : Header.ofContent? span.content = some header) :
    c.addSpan span =
      { c with
        envelopes := c.envelopes + 1
        incomplete := c.incomplete + if span.complete then 0 else 1
        lengths := c.lengths.alter span.content.length increment
        headers := c.headers.alter header.bytes increment
        sequences := c.sequences.alter header.kind.byte fun tally =>
          (tally.getD .empty).record header.sequence } := by
  simp only [addSpan, addHeader, h, Header.take_length h]
  split <;> rfl

/-- Two envelopes can be tallied in either order. -/
theorem addSpan_comm (c : Capture) (s t : Span) :
    (c.addSpan s).addSpan t = (c.addSpan t).addSpan s := by
  have hlengths : (c.lengths.alter s.content.length increment).alter t.content.length increment =
      (c.lengths.alter t.content.length increment).alter s.content.length increment :=
    c.lengths.alter_comm fun _ _ => rfl
  cases hs : Header.ofContent? s.content with
  | none =>
    cases ht : Header.ofContent? t.content with
    | none =>
      simp only [addSpan_of_none _ hs, addSpan_of_none _ ht, hlengths, Nat.add_right_comm]
    | some b =>
      simp only [addSpan_of_none _ hs, addSpan_of_some _ ht, hlengths, Nat.add_right_comm]
  | some a =>
    cases ht : Header.ofContent? t.content with
    | none =>
      simp only [addSpan_of_some _ hs, addSpan_of_none _ ht, hlengths, Nat.add_right_comm]
    | some b =>
      have hheaders : (c.headers.alter a.bytes increment).alter b.bytes increment =
          (c.headers.alter b.bytes increment).alter a.bytes increment :=
        c.headers.alter_comm fun _ _ => rfl
      have hrecord : ∀ tally : SequenceTally, (tally.record a.sequence).record b.sequence =
          (tally.record b.sequence).record a.sequence := fun tally => by
        simp only [SequenceTally.record, tally.values.insert_comm]
      -- Under one type the two sequence bytes are recorded one after the other.
      have hsequences :
          (c.sequences.alter a.kind.byte fun tally => (tally.getD .empty).record a.sequence).alter
              b.kind.byte (fun tally => (tally.getD .empty).record b.sequence) =
            (c.sequences.alter b.kind.byte fun tally => (tally.getD .empty).record b.sequence).alter
              a.kind.byte (fun tally => (tally.getD .empty).record a.sequence) :=
        c.sequences.alter_comm fun _ tally => hrecord _
      simp only [addSpan_of_some _ hs, addSpan_of_some _ ht, hlengths, hheaders, hsequences,
        Nat.add_right_comm]

/-- The capture with one more payload, but without its envelopes. -/
def receive (c : Capture) (payload : Bytes) : Capture :=
  { c with
    notifications := c.notifications + 1
    unwrapped := c.unwrapped + if (spans payload).isEmpty then 1 else 0 }

theorem addPayload_eq (c : Capture) (payload : Bytes) :
    c.addPayload payload = (spans payload).foldl addSpan (c.receive payload) := by
  unfold addPayload receive
  cases spans payload with
  | nil => rfl
  | cons s rest => rfl

/-- A payload can be received before or after envelopes of others are tallied. -/
theorem receive_foldl_addSpan (c : Capture) (payload : Bytes) (ss : List Span) :
    (ss.foldl addSpan c).receive payload = ss.foldl addSpan (c.receive payload) := by
  induction ss generalizing c with
  | nil => rfl
  | cons s ss ih =>
    have hone : (c.addSpan s).receive payload = (c.receive payload).addSpan s := by
      cases hs : Header.ofContent? s.content with
      | none => rw [addSpan_of_none _ hs, addSpan_of_none _ hs]; rfl
      | some header => rw [addSpan_of_some _ hs, addSpan_of_some _ hs]; rfl
    rw [List.foldl_cons, List.foldl_cons, ih, hone]

theorem foldl_addPayload (c : Capture) (payloads : List Bytes) :
    payloads.foldl addPayload c = (payloads.flatMap spans).foldl addSpan (payloads.foldl receive c) := by
  induction payloads generalizing c with
  | nil => rfl
  | cons payload payloads ih =>
    have hreceive : ∀ (ps : List Bytes) (c : Capture) (ss : List Span),
        ps.foldl receive (ss.foldl addSpan c) = ss.foldl addSpan (ps.foldl receive c) := by
      intro ps
      induction ps with
      | nil => exact fun _ _ => rfl
      | cons p ps ih =>
        intro c ss
        rw [List.foldl_cons, List.foldl_cons, receive_foldl_addSpan, ih]
    rw [List.foldl_cons, List.foldl_cons, List.flatMap_cons, List.foldl_append, ih, addPayload_eq,
      hreceive]

theorem foldl_receive (c : Capture) (payloads : List Bytes) :
    payloads.foldl receive c =
      { c with
        notifications := c.notifications + payloads.length
        unwrapped := c.unwrapped + payloads.countP fun payload => (spans payload).isEmpty } := by
  induction payloads generalizing c with
  | nil => rfl
  | cons payload payloads ih =>
    rw [List.foldl_cons, ih, receive, List.length_cons, List.countP_cons]
    simp only [Nat.add_assoc, Nat.add_comm 1, Nat.add_comm (ite _ _ _)]

/-- **The tallies of payloads are those of all their envelopes in one row.** -/
theorem ofPayloads_eq (payloads : List Bytes) :
    ofPayloads payloads =
      (payloads.flatMap spans).foldl addSpan
        { empty with
          notifications := payloads.length
          unwrapped := payloads.countP fun payload => (spans payload).isEmpty } := by
  rw [ofPayloads, foldl_addPayload, foldl_receive]
  simp only [empty, Nat.zero_add]

/-- The order of the payloads does not matter. -/
theorem ofPayloads_perm {payloads payloads' : List Bytes} (h : payloads.Perm payloads') :
    ofPayloads payloads = ofPayloads payloads' := by
  rw [ofPayloads_eq, ofPayloads_eq, h.length_eq, h.countP_eq]
  exact (h.flatMap_right spans).foldl_eq' (fun s _ t _ c => addSpan_comm c s t) _

/-! ### Counters -/

theorem counters_addSpan (c : Capture) (s : Span) :
    (c.addSpan s).notifications = c.notifications ∧ (c.addSpan s).unwrapped = c.unwrapped ∧
      (c.addSpan s).envelopes = c.envelopes + 1 ∧
      (c.addSpan s).incomplete = c.incomplete + if s.complete then 0 else 1 := by
  cases hs : Header.ofContent? s.content with
  | none => rw [addSpan_of_none _ hs]; exact ⟨rfl, rfl, rfl, rfl⟩
  | some header => rw [addSpan_of_some _ hs]; exact ⟨rfl, rfl, rfl, rfl⟩

theorem counters_foldl_addSpan (c : Capture) (ss : List Span) :
    (ss.foldl addSpan c).notifications = c.notifications ∧
      (ss.foldl addSpan c).unwrapped = c.unwrapped ∧
      (ss.foldl addSpan c).envelopes = c.envelopes + ss.length ∧
      (ss.foldl addSpan c).incomplete = c.incomplete + ss.countP (!·.complete) := by
  induction ss generalizing c with
  | nil => exact ⟨rfl, rfl, rfl, rfl⟩
  | cons s ss ih =>
    obtain ⟨hnotifications, hunwrapped, henvelopes, hincomplete⟩ := ih (c.addSpan s)
    obtain ⟨hnotifications', hunwrapped', henvelopes', hincomplete'⟩ := counters_addSpan c s
    rw [List.foldl_cons, List.length_cons, List.countP_cons]
    refine ⟨hnotifications.trans hnotifications', hunwrapped.trans hunwrapped', by omega, ?_⟩
    rw [hincomplete, hincomplete']
    cases s.complete
    · simp only [Bool.not_false, if_true, if_false, Bool.false_eq_true]
      omega
    · simp

/-- Of the envelopes of a payload at most one is incomplete. -/
theorem countP_incomplete_le (payload : Bytes) : (spans payload).countP (!·.complete) ≤ 1 := by
  have hapart := (Envelope.standApart_spans payload).apart
  generalize spans payload = ss at hapart
  induction ss with
  | nil => exact Nat.zero_le 1
  | cons s ss ih =>
    obtain ⟨hfirst, hrest⟩ := List.pairwise_cons.1 hapart
    rw [List.countP_cons]
    cases ss with
    | nil => simp; split <;> omega
    | cons t ss =>
      rw [(hfirst t List.mem_cons_self).1]
      exact ih hrest

/-- A payload is unwrapped, or its last envelope may be incomplete. -/
theorem incomplete_add_unwrapped_le (payloads : List Bytes) :
    (payloads.flatMap spans).countP (!·.complete) +
      payloads.countP (fun payload => (spans payload).isEmpty) ≤ payloads.length := by
  induction payloads with
  | nil => exact Nat.le_refl 0
  | cons payload payloads ih =>
    rw [List.flatMap_cons, List.countP_append, List.countP_cons, List.length_cons]
    cases hspans : spans payload with
    | nil =>
      simp only [List.countP_nil, List.isEmpty_nil, if_true]
      omega
    | cons s ss =>
      have hle := countP_incomplete_le payload
      rw [hspans] at hle
      simp only [List.isEmpty_cons, Bool.false_eq_true, if_false]
      omega

/-! ### Maps -/

/-- The tally of a type, empty if there is none. -/
def tallyOf (c : Capture) (kind : UInt8) : SequenceTally := (c.sequences.get? kind).getD .empty

/-- What the counters and maps of a capture say of each other while envelopes are tallied. -/
structure IsBalanced (c : Capture) : Prop where
  /-- Each envelope has a length. -/
  lengths : c.lengths.sumWhere (fun _ => true) = c.envelopes
  /-- An envelope is too short for a header if it has a single byte of content. -/
  tooShort : (c.lengths.get? 1).getD 0 = c.tooShort
  /-- Every other envelope has a header. -/
  headers : c.tooShort + c.headers.sumWhere (fun _ => true) = c.envelopes
  /-- The keys are headers. -/
  keys : ∀ key ∈ c.headers.keys, ∃ header : Header, key = header.bytes
  /-- Under a type there are as many samples as headers of the type. -/
  samples : ∀ kind, (c.tallyOf kind).samples = c.headers.sumWhere (·.head? = some kind)
  /-- A type that has been seen has samples. -/
  seen : ∀ kind, (c.sequences.get? kind).isSome → (c.tallyOf kind).samples ≠ 0
  /-- Under a type there are the sequence bytes of the headers of the type. -/
  values : ∀ kind sequence, sequence ∈ (c.tallyOf kind).values.keys ↔
    ∃ key ∈ c.headers.keys, key.head? = some kind ∧ key[1]? = some sequence

theorem isBalanced_empty (notifications unwrapped : Nat) :
    IsBalanced { empty with notifications := notifications, unwrapped := unwrapped } where
  lengths := rfl
  tooShort := rfl
  headers := rfl
  keys := List.forall_mem_nil _
  samples _ := rfl
  seen _ h := nomatch h
  values kind sequence := by
    have hnone : ({ empty with notifications, unwrapped } : Capture).tallyOf kind = .empty := rfl
    rw [hnone]
    simp [empty, SortedMap.keys, SortedMap.empty, SequenceTally.empty]

theorem increment_eq (count : Option Nat) : increment count = count.getD 0 + 1 := rfl

theorem sumWhere_lengths_addSpan (c : Capture) (span : Span) :
    (c.lengths.alter span.content.length increment).sumWhere (fun _ => true) =
      c.lengths.sumWhere (fun _ => true) + 1 := by
  rw [SortedMap.sumWhere_alter _ _ _ increment_eq, if_pos rfl]

/-- A sequence byte is recorded under its type alone. -/
theorem tallyOf_addSpan (c : Capture) (h : Header.ofContent? span.content = some header) (kind : UInt8) :
    (c.addSpan span).tallyOf kind =
      if kind = header.kind.byte then (c.tallyOf kind).record header.sequence else c.tallyOf kind := by
  rw [addSpan_of_some c h, tallyOf, SortedMap.get?_alter]
  by_cases hkind : kind = header.kind.byte
  · rw [if_pos hkind, if_pos hkind, hkind]
    rfl
  · rw [if_neg hkind, if_neg hkind]
    rfl

/-- An envelope too short for a header leaves the capture in balance: its content is a single byte. -/
theorem IsBalanced.addSpan_of_none (hc : c.IsBalanced) (hspan : span.content ≠ [])
    (h : Header.ofContent? span.content = none) : (c.addSpan span).IsBalanced := by
  have hone : 1 = span.content.length := by
    have hpos := List.length_pos_iff.2 hspan
    have hlt := Header.ofContent?_eq_none_iff.1 h
    omega
  have hlengths := hc.lengths
  have hheaders := hc.headers
  rw [Capture.addSpan_of_none _ h]
  refine { hc with lengths := ?_, tooShort := ?_, headers := ?_ }
  · rw [sumWhere_lengths_addSpan, hlengths]
  · rw [SortedMap.get?_alter, if_pos hone, ← hone, Option.getD_some, increment_eq, hc.tooShort]
  · simp only
    omega

/-- So does an envelope with a header. -/
theorem IsBalanced.addSpan_of_some (hc : c.IsBalanced)
    (h : Header.ofContent? span.content = some header) : (c.addSpan span).IsBalanced := by
  have hmore : 1 ≠ span.content.length := by
    have hnot := mt Header.ofContent?_eq_none_iff.2 (h ▸ Option.some_ne_none header)
    omega
  have hhead : header.bytes.head? = some header.kind.byte := rfl
  have hsecond : header.bytes[1]? = some header.sequence := rfl
  have hadd := Capture.addSpan_of_some c h
  have hheaders : (c.addSpan span).headers = c.headers.alter header.bytes increment := by rw [hadd]
  refine ⟨?_, ?_, ?_, ?_, ?_, ?_, ?_⟩
  · rw [hadd, sumWhere_lengths_addSpan, hc.lengths]
  · rw [hadd, SortedMap.get?_alter, if_neg hmore, hc.tooShort]
  · rw [hheaders, SortedMap.sumWhere_alter _ _ _ increment_eq, if_pos rfl, hadd, ← hc.headers]
    simp only
    omega
  · intro key hkey
    rw [hheaders, SortedMap.mem_keys_alter] at hkey
    rcases hkey with rfl | hkey
    · exact ⟨header, rfl⟩
    · exact hc.keys key hkey
  · intro kind
    rw [tallyOf_addSpan c h, hheaders, SortedMap.sumWhere_alter _ _ _ increment_eq, ← hc.samples, hhead]
    by_cases hkind : kind = header.kind.byte
    · simp [hkind, SequenceTally.record]
    · simp [hkind, Ne.symm hkind]
  · intro kind hsome
    rw [tallyOf_addSpan c h]
    by_cases hkind : kind = header.kind.byte
    · simp [hkind, SequenceTally.record]
    · rw [hadd, SortedMap.get?_alter, if_neg hkind] at hsome
      rw [if_neg hkind]
      exact hc.seen kind hsome
  · intro kind sequence
    rw [tallyOf_addSpan c h, hheaders]
    simp only [SortedMap.mem_keys_alter, exists_eq_or_imp, hhead, hsecond, Option.some_inj]
    rw [← hc.values]
    by_cases hkind : kind = header.kind.byte
    · simp [hkind, SequenceTally.record, SortedMap.insert, SortedMap.mem_keys_alter, eq_comm]
    · simp [hkind, Ne.symm hkind]

/-- **An envelope that is tallied leaves the capture in balance.** -/
theorem IsBalanced.addSpan (hc : c.IsBalanced) (hspan : span.content ≠ []) :
    (c.addSpan span).IsBalanced := by
  cases h : Header.ofContent? span.content with
  | none => exact hc.addSpan_of_none hspan h
  | some header => exact hc.addSpan_of_some h

/-- So does a row of envelopes. -/
theorem IsBalanced.foldl_addSpan {ss : List Span} (hss : ∀ s ∈ ss, s.content ≠ [])
    (hc : c.IsBalanced) : (ss.foldl Capture.addSpan c).IsBalanced := by
  induction ss generalizing c with
  | nil => exact hc
  | cons s ss ih =>
    obtain ⟨hs, hss⟩ := List.forall_mem_cons.1 hss
    exact ih hss (hc.addSpan hs)

theorem isBalanced_ofPayloads (payloads : List Bytes) : (ofPayloads payloads).IsBalanced := by
  rw [ofPayloads_eq]
  refine (isBalanced_empty _ _).foldl_addSpan fun s hs => ?_
  obtain ⟨payload, -, hs⟩ := List.mem_flatMap.1 hs
  exact (Envelope.standApart_spans payload).nonempty s hs

/-! ### Patterns -/

/-- The headers with their counts as a report shows them, in uppercase hexadecimal. -/
def patterns (c : Capture) : List (String × Nat) :=
  c.headers.entries.map fun entry => (Hex.encode entry.1, entry.2)

/-- The byte at a position of a text in hexadecimal. -/
def byteAt? (text : String) (i : Nat) : Option UInt8 := (Hex.pairs? text.toList).bind (·[i]?)

/-- The patterns that begin with a type byte. -/
def patternsOf (c : Capture) (kind : UInt8) : List (String × Nat) :=
  c.patterns.filter fun pattern => byteAt? pattern.1 0 = some kind

theorem byteAt?_encode (bs : Bytes) (i : Nat) : byteAt? (Hex.encode bs) i = bs[i]? := by
  rw [byteAt?, Hex.encode, String.toList_ofList, Hex.pairs?_digits, Option.bind_some]

theorem sum_patterns (c : Capture) :
    (c.patterns.map (·.2)).sum = c.headers.sumWhere fun _ => true := by
  rw [SortedMap.sumWhere_true, patterns, List.map_map]
  rfl

theorem patternsOf_eq (c : Capture) (kind : UInt8) :
    c.patternsOf kind =
      (c.headers.entries.filter fun entry => entry.1.head? = some kind).map
        fun entry => (Hex.encode entry.1, entry.2) := by
  simp only [patternsOf, patterns, List.filter_map, Function.comp_def, byteAt?_encode,
    List.head?_eq_getElem?]

theorem sum_patternsOf (c : Capture) (kind : UInt8) :
    ((c.patternsOf kind).map (·.2)).sum = c.headers.sumWhere (·.head? = some kind) := by
  rw [patternsOf_eq, List.map_map]
  rfl

/-- The second bytes of patterns, with repetitions. -/
def secondBytes (patterns : List (String × Nat)) : List UInt8 :=
  patterns.filterMap fun pattern => byteAt? pattern.1 1

theorem mem_secondBytes_patternsOf (c : Capture) (kind b : UInt8) :
    b ∈ secondBytes (c.patternsOf kind) ↔
      ∃ key ∈ c.headers.keys, key.head? = some kind ∧ key[1]? = some b := by
  rw [secondBytes, patternsOf_eq, List.mem_filterMap]
  simp only [List.mem_map, List.mem_filter, decide_eq_true_eq, SortedMap.keys]
  constructor
  · rintro ⟨_, ⟨entry, ⟨hentry, hkind⟩, rfl⟩, hb⟩
    rw [byteAt?_encode] at hb
    exact ⟨entry.1, ⟨entry, hentry, rfl⟩, hkind, hb⟩
  · rintro ⟨_, ⟨entry, hentry, rfl⟩, hkind, hb⟩
    rw [← byteAt?_encode] at hb
    exact ⟨_, ⟨entry, ⟨hentry, hkind⟩, rfl⟩, hb⟩

end Capture

/-- The tally of an envelope type is that of its header patterns. -/
structure SequenceTally.Summarizes (t : SequenceTally) (patterns : List (String × Nat)) : Prop where
  /-- There is a sample for each envelope. -/
  samples : t.samples = (patterns.map (·.2)).sum
  /-- The distinct sequence bytes are counted. -/
  unique : t.unique = (Capture.secondBytes patterns).dedup.length
  /-- The least of them. -/
  least : ∀ b, t.least? = some b ↔
    b ∈ Capture.secondBytes patterns ∧ ∀ b' ∈ Capture.secondBytes patterns, b ≤ b'
  /-- The greatest of them. -/
  greatest : ∀ b, t.greatest? = some b ↔
    b ∈ Capture.secondBytes patterns ∧ ∀ b' ∈ Capture.secondBytes patterns, b' ≤ b

theorem SequenceTally.summarizes_of_mem {t : SequenceTally} {patterns : List (String × Nat)}
    (hsamples : t.samples = (patterns.map (·.2)).sum)
    (hvalues : ∀ b, b ∈ t.values.keys ↔ b ∈ Capture.secondBytes patterns) : t.Summarizes patterns where
  samples := hsamples
  unique := by
    have hperm : t.values.keys.Perm (Capture.secondBytes patterns).dedup := by
      refine (List.perm_ext_iff_of_nodup t.values.nodup_keys (List.nodup_dedup _)).2 fun b => ?_
      rw [List.mem_dedup, hvalues]
    rw [unique, ← hperm.length_eq, SortedMap.keys, List.length_map]
  least b := by
    have hleast := head?_eq_some_iff_of_pairwise (a := b) t.values.pairwise_keys
    simp only [hvalues, UInt8.not_lt] at hleast
    rw [least?, ← hleast, SortedMap.keys, List.head?_map]
  greatest b := by
    have hgreatest := getLast?_eq_some_iff_of_pairwise (a := b) t.values.pairwise_keys
    simp only [hvalues, UInt8.not_lt] at hgreatest
    rw [greatest?, ← hgreatest, SortedMap.keys, List.getLast?_map]

namespace Capture

open Envelope (Header spans)

/-- What the counters and maps of the capture of some payloads say of each other. -/
structure IsConsistent (c : Capture) (payloads : List Bytes) : Prop where
  /-- The payloads are counted. -/
  notifications : c.notifications = payloads.length
  /-- Their envelopes are counted. -/
  envelopes : c.envelopes = (payloads.map fun payload => (spans payload).length).sum
  /-- Each envelope has a length. -/
  lengths : (c.lengths.entries.map (·.2)).sum = c.envelopes
  /-- The envelopes too short for a header are those of length one. -/
  tooShort : c.tooShort = (c.lengths.get? 1).getD 0
  /-- All others have a pattern. -/
  patterns : c.tooShort + (c.patterns.map (·.2)).sum = c.envelopes
  /-- No pattern is listed twice. -/
  distinct : (c.patterns.map (·.1)).Nodup
  /-- A pattern is a type byte, a sequence byte and perhaps a third byte. -/
  headers : ∀ pattern ∈ c.patterns, ∃ kind sequence, ∃ extra : Option UInt8,
    pattern.1 = Hex.encode (kind :: sequence :: extra.toList)
  /-- A type without a tally has no patterns. -/
  absent : ∀ kind, c.sequences.get? kind = none ↔ ((c.patternsOf kind).map (·.2)).sum = 0
  /-- The tally of a type is that of its patterns. -/
  sequences : ∀ kind tally, c.sequences.get? kind = some tally → tally.Summarizes (c.patternsOf kind)
  /-- A payload without envelopes has no incomplete one, and any other at most one. -/
  incomplete : c.incomplete + c.unwrapped ≤ c.notifications

theorem IsBalanced.absent_iff {c : Capture} (hc : c.IsBalanced) (kind : UInt8) :
    c.sequences.get? kind = none ↔ ((c.patternsOf kind).map (·.2)).sum = 0 := by
  rw [sum_patternsOf, ← hc.samples]
  constructor
  · intro hnone
    rw [tallyOf, hnone]
    rfl
  · intro hzero
    by_contra hsome
    exact hc.seen kind (Option.isSome_iff_ne_none.2 hsome) hzero

theorem IsBalanced.summarizes {c : Capture} (hc : c.IsBalanced) {kind : UInt8} {tally : SequenceTally}
    (htally : c.sequences.get? kind = some tally) : tally.Summarizes (c.patternsOf kind) := by
  have htallyOf : c.tallyOf kind = tally := by rw [tallyOf, htally, Option.getD_some]
  subst htallyOf
  refine SequenceTally.summarizes_of_mem ?_ fun b => ?_
  · rw [sum_patternsOf, hc.samples]
  · rw [mem_secondBytes_patternsOf, hc.values]

theorem nodup_patterns (c : Capture) : (c.patterns.map (·.1)).Nodup := by
  have hinjective : Function.Injective Hex.encode := fun _ _ => Hex.encode_inj.1
  have hmap : c.patterns.map (·.1) = c.headers.keys.map Hex.encode := by
    rw [patterns, SortedMap.keys, List.map_map, List.map_map]
    rfl
  rw [hmap]
  exact c.headers.nodup_keys.map hinjective

/-- **The tallies of payloads are consistent.** -/
theorem isConsistent_ofPayloads (payloads : List Bytes) :
    (ofPayloads payloads).IsConsistent payloads := by
  have hc := isBalanced_ofPayloads payloads
  have hcounters := counters_foldl_addSpan
    { empty with
      notifications := payloads.length
      unwrapped := payloads.countP fun payload => (spans payload).isEmpty } (payloads.flatMap spans)
  rw [← ofPayloads_eq] at hcounters
  obtain ⟨hnotifications, hunwrapped, henvelopes, hincomplete⟩ := hcounters
  refine ⟨hnotifications, ?_, ?_, hc.tooShort.symm, ?_, nodup_patterns _, ?_, hc.absent_iff,
    fun _ _ => hc.summarizes, ?_⟩
  · rw [henvelopes, List.length_flatMap]
    exact Nat.zero_add _
  · rw [← hc.lengths, SortedMap.sumWhere_true]
  · rw [sum_patterns, hc.headers]
  · intro pattern hpattern
    obtain ⟨entry, hentry, rfl⟩ := List.mem_map.1 hpattern
    obtain ⟨header, hkey⟩ := hc.keys entry.1 (List.mem_map_of_mem hentry)
    exact ⟨header.kind.byte, header.sequence, header.extra, congrArg Hex.encode hkey⟩
  · rw [hincomplete, hunwrapped, hnotifications]
    have hle := incomplete_add_unwrapped_le payloads
    simp only [empty, Nat.zero_add]
    exact hle

/-- **What capture tallies say.** The tallies of payloads are consistent, no header reaches beyond the
content of its envelope, and the order of the payloads does not matter. -/
theorem ofPayloads_consistent (payloads : List Bytes) :
    (ofPayloads payloads).IsConsistent payloads ∧
      (∀ payload ∈ payloads, ∀ span ∈ spans payload, ∀ header,
        Header.ofContent? span.content = some header → header.length ≤ span.content.length) ∧
      ∀ payloads', payloads.Perm payloads' → ofPayloads payloads = ofPayloads payloads' :=
  ⟨isConsistent_ofPayloads payloads, fun _ _ _ _ _ h => Header.length_le h,
    fun _ h => ofPayloads_perm h⟩

/-- Envelopes with all kinds of headers, too short, empty, incomplete and missing. -/
def mixedPayloads : List Bytes :=
  [Envelope.wrap [0x11, 0x07] ++ [0x00] ++ Envelope.wrap [0x11, 0x05, 0xAA, 0xBB],
    Envelope.wrap [0x25, 0x03, 0x01, 0x68] ++ Envelope.wrap [0x25, 0x03, 0x02, 0x68] ++ Envelope.opening ++
      [0x25, 0x01, 0x09],
    Envelope.wrap [], [0x68, 0x16], Envelope.wrap [0x11, 0x05] ++ Envelope.wrap [0x42]]

theorem ofPayloads_consistent_mixedPayloads :
    (ofPayloads mixedPayloads).patterns =
        [("1105", 2), ("1107", 1), ("2501", 1), ("250301", 1), ("250302", 1)] ∧
      (∀ tally, (ofPayloads mixedPayloads).sequences.get? 0x25 = some tally →
        tally.Summarizes [("2501", 1), ("250301", 1), ("250302", 1)]) ∧
      ((ofPayloads mixedPayloads).sequences.get? 0x25).map (fun tally =>
        (tally.samples, tally.unique, tally.least?, tally.greatest?)) = some (3, 2, some 0x01, some 0x03) ∧
      ofPayloads mixedPayloads = ofPayloads mixedPayloads.reverse := by
  have hconsistent := ofPayloads_consistent mixedPayloads
  have hpatterns : (ofPayloads mixedPayloads).patternsOf 0x25 =
      [("2501", 1), ("250301", 1), ("250302", 1)] := by decide +kernel
  refine ⟨by decide +kernel, fun tally htally => ?_, by decide +kernel,
    hconsistent.2.2 _ mixedPayloads.reverse_perm.symm⟩
  rw [← hpatterns]
  exact hconsistent.1.sequences 0x25 tally htally

end Capture

end MeterBridge
