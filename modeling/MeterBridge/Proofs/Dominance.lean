import MeterBridge.Proofs.Capture
import Mathlib.Data.List.MinMax

/-!
# Dominant headers

The dominant header of a capture is found by one pass over the headers in ascending order that gives a header
up only for a more frequent one. So it is the first of the most frequent headers (`foldl_moreFrequent`), and
because of the order the least of them. The counts beside the headers are numbers of envelopes
(`get?_headers_ofPayloads`), and the order of headers is that of their texts in hexadecimal
(`Hex.encode_lt_encode_iff`).

`Capture.dominantHeader?_mode` puts this together: the dominant header is the mode of the headers of all
envelopes, and there is one unless no envelope has a header.
-/

namespace MeterBridge

/-! ### The order of texts in hexadecimal -/

namespace Hex

theorem upperHex_lt_upperHex_iff {m n : Nat} (hm : m < 16) (hn : n < 16) :
    Digit.upperHex m < Digit.upperHex n ↔ m < n :=
  (by decide : ∀ m < 16, ∀ n < 16, Digit.upperHex m < Digit.upperHex n ↔ m < n) m hm n hn

theorem upperHex_inj {m n : Nat} (hm : m < 16) (hn : n < 16) :
    Digit.upperHex m = Digit.upperHex n ↔ m = n :=
  (by decide : ∀ m < 16, ∀ n < 16, Digit.upperHex m = Digit.upperHex n ↔ m = n) m hm n hn

/-- **Bytes are ordered as their texts are**: a half of a byte is greater if its digit is. -/
theorem digits_lt_digits_iff {a b : Bytes} : digits a < digits b ↔ a < b := by
  induction a generalizing b with
  | nil =>
    cases b with
    | nil => simp [digits]
    | cons y b => simp [digits, pair]
  | cons x a ih =>
    cases b with
    | nil => simp [digits]
    | cons y b =>
      have hx := x.toNat_lt
      have hy := y.toNat_lt
      have hrest : digits a < digits b ↔ a < b := ih
      have hdigits : ∀ (z : UInt8) (rest : Bytes), digits (z :: rest) =
          Digit.upperHex (z.toNat / 16) :: Digit.upperHex (z.toNat % 16) :: digits rest := fun _ _ => rfl
      rw [hdigits, hdigits, List.cons_lt_cons_iff, List.cons_lt_cons_iff, List.cons_lt_cons_iff, hrest,
        upperHex_lt_upperHex_iff (by omega) (by omega), upperHex_lt_upperHex_iff (by omega) (by omega),
        upperHex_inj (by omega) (by omega), upperHex_inj (by omega) (by omega), UInt8.lt_iff_toNat_lt,
        ← UInt8.toNat_inj]
      constructor
      · rintro (hhigh | ⟨hhigh, hlow | ⟨hlow, hlt⟩⟩)
        · exact .inl (by omega)
        · exact .inl (by omega)
        · exact .inr ⟨by omega, hlt⟩
      · rintro (hlt | ⟨heq, hlt⟩)
        · by_cases hhigh : x.toNat / 16 < y.toNat / 16
          · exact .inl hhigh
          · exact .inr ⟨by omega, .inl (by omega)⟩
        · exact .inr ⟨by omega, .inr ⟨by omega, hlt⟩⟩

theorem encode_lt_encode_iff {a b : Bytes} : encode a < encode b ↔ a < b := by
  rw [String.lt_iff, encode, encode, String.toList_ofList, String.toList_ofList,
    digits_lt_digits_iff]

theorem encode_le_encode_iff {a b : Bytes} : encode a ≤ encode b ↔ a ≤ b :=
  not_congr encode_lt_encode_iff

end Hex

/-! ### Headers of envelopes -/

namespace Envelope

/-- The header of an envelope as a report shows it, unless its content is too short for one. -/
def Span.pattern? (s : Span) : Option String :=
  (Header.ofContent? s.content).map fun header => Hex.encode (s.content.take header.length)

variable {s : Span} {header : Header}

theorem Span.pattern?_of_some (h : Header.ofContent? s.content = some header) :
    s.pattern? = some (Hex.encode header.bytes) := by
  rw [pattern?, h, Option.map_some, Header.take_length h]

theorem Span.pattern?_of_none (h : Header.ofContent? s.content = none) : s.pattern? = none := by
  rw [pattern?, h, Option.map_none]

/-- A header has two bytes at least. -/
theorem Header.two_le_length (h : Header) : 2 ≤ h.length := by
  rw [length]
  split <;> decide

end Envelope

/-! ### The most frequent header -/

namespace Capture

open Envelope (Header Span spans)

variable {c : Capture} {header : Bytes} {count : Nat}

/-- The pass over the headers ends with the first one that has the greatest count. -/
theorem foldl_moreFrequent (entries : List (Bytes × Nat)) :
    entries.foldl moreFrequent none = entries.argmax (·.2) := by
  rw [List.argmax]
  congr 1
  funext best entry
  cases best with
  | none => rfl
  | some top =>
    simp only [moreFrequent, List.argAux]
    by_cases hle : entry.2 ≤ top.2
    · rw [if_pos hle, if_neg (Nat.not_lt.2 hle)]
    · rw [if_neg hle, if_pos (Nat.lt_of_not_le hle)]

/-- The dominant header has the greatest count, and of headers with this count it is the least. -/
theorem dominantHeader?_eq_some_iff :
    c.dominantHeader? = some (header, count) ↔
      c.headers.get? header = some count ∧ ∀ other n, c.headers.get? other = some n →
        n ≤ count ∧ (n = count → header ≤ other) := by
  simp only [SortedMap.get?_eq_some_iff]
  rw [dominantHeader?, foldl_moreFrequent, ← Option.mem_def, List.mem_argmax_iff]
  refine and_congr_right fun hmem => ?_
  have hfirst := fun (e : Bytes × Nat) (he : e ∈ c.headers.entries) =>
    idxOf_le_idxOf_iff_of_pairwise c.headers.ascending hmem he
  constructor
  · rintro ⟨hmost, hleast⟩ other n hother
    refine ⟨hmost _ hother, fun hn => ?_⟩
    exact (hfirst _ hother).1 (hleast _ hother (Nat.le_of_eq hn.symm))
  · intro h
    refine ⟨fun e he => (h _ _ he).1, fun e he hle => ?_⟩
    exact (hfirst _ he).2 ((h _ _ he).2 (Nat.le_antisymm (h _ _ he).1 hle))

theorem dominantHeader?_eq_none_iff : c.dominantHeader? = none ↔ ∀ key, c.headers.get? key = none := by
  rw [dominantHeader?, foldl_moreFrequent, List.argmax_eq_none, List.eq_nil_iff_forall_not_mem]
  constructor
  · intro h key
    rw [Option.eq_none_iff_forall_ne_some]
    exact fun n hn => h _ (SortedMap.get?_eq_some_iff.1 hn)
  · rintro h ⟨key, n⟩ hmem
    have hsome := SortedMap.get?_eq_some_iff.2 hmem
    rw [h key] at hsome
    cases hsome

/-! ### Numbers of envelopes -/

/-- How many envelopes of some payloads have a pattern. -/
def frequency (payloads : List Bytes) (pattern : String) : Nat :=
  (payloads.flatMap spans).countP fun s => s.pattern? = some pattern

/-- Each envelope is counted under its header. -/
theorem get?_headers_foldl_addSpan (hc : c.headers = .empty) (ss : List Span) (key : Bytes) :
    (ss.foldl addSpan c).headers.get? key =
      if ss.countP (·.pattern? = some (Hex.encode key)) = 0 then none
      else some (ss.countP (·.pattern? = some (Hex.encode key))) := by
  induction ss using List.reverseRecOn with
  | nil => rw [List.foldl_nil, hc]; rfl
  | append_singleton ss s ih =>
    rw [List.foldl_append, List.foldl_cons, List.foldl_nil, List.countP_append, List.countP_singleton]
    cases hs : Header.ofContent? s.content with
    | none =>
      rw [addSpan_of_none _ hs, Span.pattern?_of_none hs]
      simpa using ih
    | some header =>
      rw [addSpan_of_some _ hs, Span.pattern?_of_some hs, SortedMap.get?_alter]
      simp only [Option.some_inj, Hex.encode_inj, decide_eq_true_eq]
      by_cases hkey : key = header.bytes
      · rw [if_pos hkey, if_pos hkey.symm, ← hkey, ih, increment_eq, if_neg (Nat.succ_ne_zero _)]
        split
        · next hzero => rw [hzero]; rfl
        · rfl
      · rw [if_neg hkey, if_neg (Ne.symm hkey), Nat.add_zero, ih]

theorem get?_headers_ofPayloads (payloads : List Bytes) (key : Bytes) :
    (ofPayloads payloads).headers.get? key =
      if frequency payloads (Hex.encode key) = 0 then none
      else some (frequency payloads (Hex.encode key)) := by
  rw [ofPayloads_eq]
  exact get?_headers_foldl_addSpan rfl _ key

/-- Only headers are counted. -/
theorem exists_encode_of_frequency {payloads : List Bytes} {pattern : String}
    (h : frequency payloads pattern ≠ 0) : ∃ key, pattern = Hex.encode key := by
  obtain ⟨s, -, hs⟩ := List.countP_pos_iff.1 (Nat.pos_of_ne_zero h)
  rw [decide_eq_true_eq, Span.pattern?, Option.map_eq_some_iff] at hs
  obtain ⟨header, -, hpattern⟩ := hs
  exact ⟨_, hpattern.symm⟩

/-- The pattern is the most frequent one, and the least of the most frequent ones. -/
structure IsMode (payloads : List Bytes) (pattern : String) (count : Nat) : Prop where
  /-- Some envelope has it. -/
  pos : 0 < count
  /-- So many envelopes have it. -/
  count_eq : count = frequency payloads pattern
  /-- No pattern is more frequent. -/
  frequency_le : ∀ other, frequency payloads other ≤ count
  /-- One that is as frequent is not less in the order of texts. -/
  le_of_frequency_eq : ∀ other, frequency payloads other = count → pattern ≤ other

theorem frequency_eq_zero_iff (payloads : List Bytes) :
    (∀ pattern, frequency payloads pattern = 0) ↔
      ∀ s ∈ payloads.flatMap spans, Header.ofContent? s.content = none := by
  simp only [frequency, List.countP_eq_zero, decide_eq_true_eq]
  constructor
  · intro h s hs
    cases hheader : Header.ofContent? s.content with
    | none => rfl
    | some header => exact absurd (Span.pattern?_of_some hheader) (h _ s hs)
  · intro h pattern s hs
    rw [Span.pattern?_of_none (h s hs)]
    exact (Option.some_ne_none pattern).symm

/-- The dominant header is the mode. -/
theorem isMode_of_dominantHeader? {payloads : List Bytes}
    (h : (ofPayloads payloads).dominantHeader? = some (header, count)) :
    IsMode payloads (Hex.encode header) count := by
  obtain ⟨hheader, hothers⟩ := dominantHeader?_eq_some_iff.1 h
  rw [get?_headers_ofPayloads] at hheader
  obtain ⟨hne, rfl⟩ : frequency payloads (Hex.encode header) ≠ 0 ∧
      frequency payloads (Hex.encode header) = count := by simpa using hheader
  -- What a pattern that occurs has to do with the dominant one.
  have hocc : ∀ other, frequency payloads other ≠ 0 →
      frequency payloads other ≤ frequency payloads (Hex.encode header) ∧
        (frequency payloads other = frequency payloads (Hex.encode header) →
          Hex.encode header ≤ other) := by
    intro other hother
    obtain ⟨key, rfl⟩ := exists_encode_of_frequency hother
    have hget := get?_headers_ofPayloads payloads key
    rw [if_neg hother] at hget
    obtain ⟨hle, hleast⟩ := hothers key _ hget
    exact ⟨hle, fun heq => Hex.encode_le_encode_iff.2 (hleast heq)⟩
  refine ⟨Nat.pos_of_ne_zero hne, rfl, fun other => ?_, fun other heq => ?_⟩
  · by_cases hother : frequency payloads other = 0
    · rw [hother]
      exact Nat.zero_le _
    · exact (hocc other hother).1
  · exact (hocc other (heq ▸ hne)).2 heq

/-- There is one mode. -/
theorem IsMode.unique {payloads : List Bytes} {pattern pattern' : String} {count count' : Nat}
    (h : IsMode payloads pattern count) (h' : IsMode payloads pattern' count') :
    pattern = pattern' ∧ count = count' := by
  have hcount : count = count' :=
    Nat.le_antisymm (h.count_eq ▸ h'.frequency_le pattern) (h'.count_eq ▸ h.frequency_le pattern')
  refine ⟨String.le_antisymm ?_ ?_, hcount⟩
  · exact h.le_of_frequency_eq _ (h'.count_eq.symm.trans hcount.symm)
  · exact h'.le_of_frequency_eq _ (h.count_eq.symm.trans hcount)

/-- There is a dominant header unless no envelope has a header. -/
theorem dominantHeader?_ofPayloads_eq_none_iff (payloads : List Bytes) :
    (ofPayloads payloads).dominantHeader? = none ↔
      ∀ s ∈ payloads.flatMap spans, Header.ofContent? s.content = none := by
  rw [dominantHeader?_eq_none_iff, ← frequency_eq_zero_iff]
  constructor
  · intro h pattern
    by_contra hne
    obtain ⟨key, rfl⟩ := exists_encode_of_frequency hne
    have hget := get?_headers_ofPayloads payloads key
    rw [if_neg hne, h key] at hget
    cases hget
  · intro h key
    rw [get?_headers_ofPayloads, if_pos (h _)]

/-- **The dominant header is the mode of all headers**, the least one if there are several, and there is one
unless no envelope has a header of two bytes or more, for which its content is too short. -/
theorem dominantHeader?_mode (payloads : List Bytes) :
    ((ofPayloads payloads).dominantHeader? = none ↔
        ¬ ∃ s ∈ payloads.flatMap spans, ∃ header, Header.ofContent? s.content = some header ∧
          2 ≤ header.length) ∧
      ((ofPayloads payloads).dominantHeader? = none ↔
        ∀ s ∈ payloads.flatMap spans, s.content.length < 2) ∧
      ∀ header count, (ofPayloads payloads).dominantHeader? = some (header, count) ↔
        IsMode payloads (Hex.encode header) count := by
  refine ⟨?_, ?_, ?_⟩
  · rw [dominantHeader?_ofPayloads_eq_none_iff]
    constructor
    · rintro h ⟨s, hs, header, hheader, -⟩
      rw [h s hs] at hheader
      cases hheader
    · intro h s hs
      rw [Option.eq_none_iff_forall_ne_some]
      exact fun header hheader => h ⟨s, hs, header, hheader, header.two_le_length⟩
  · rw [dominantHeader?_ofPayloads_eq_none_iff]
    simp only [Header.ofContent?_eq_none_iff]
  · refine fun header count => ⟨isMode_of_dominantHeader?, fun hmode => ?_⟩
    cases hdominant : (ofPayloads payloads).dominantHeader? with
    | none =>
      have hnone := frequency_eq_zero_iff payloads |>.2
        ((dominantHeader?_ofPayloads_eq_none_iff payloads).1 hdominant) (Hex.encode header)
      have hpos := hmode.pos
      rw [hmode.count_eq, hnone] at hpos
      exact absurd hpos (Nat.lt_irrefl 0)
    | some top =>
      obtain ⟨hheader, hcount⟩ := (isMode_of_dominantHeader? hdominant).unique hmode
      rw [← Hex.encode_inj.1 hheader, ← hcount]

/-- A header of two bytes dominates a longer one that is as frequent, although it is seen later. -/
example :
    let long := Envelope.wrap [0x25, 0x03, 0x02, 0x68]
    let short := Envelope.wrap [0x25, 0x03]
    (ofPayloads [long ++ short, Envelope.wrap [0x42] ++ short ++ long]).dominantHeader? =
      some ([0x25, 0x03], 2) := by decide +kernel

end Capture

end MeterBridge
