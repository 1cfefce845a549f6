import MeterBridge.Envelope.Span
import MeterBridge.Proofs.Occurrence
import Mathlib.Data.List.Infix

/-!
# Layouts of payloads

A payload is made of envelopes, of gaps in front of them and behind the last one, and perhaps of an
envelope at the end that has lost its closing delimiter. If no gap holds an opening delimiter and no
content a closing one, this is its `Layout`. Neither delimiter ends as it begins (`IsUnbordered`), so a
delimiter behind a piece of a layout is the first one from there on, whatever part of a delimiter the
piece ends with (`Bytes.find?_eq_some_iff_append`).

* `Layout.IsSound.spans_bytes` — the envelopes that are found are those of the layout.
* `Layout.existsUnique_isSound` — every payload has one layout.
* `standApart_spans` — so the envelopes of a payload stand apart.
* `spans_layout` — all of this together.
-/

namespace MeterBridge

/-! ### The first delimiter -/

namespace Bytes

variable {pattern data front rest : Bytes} {i : Nat}

/-- The pattern occurs nowhere in the data. -/
def Lacks (data pattern : Bytes) : Prop := ∀ i, ¬ OccursAt pattern data i

/-- The pattern does not end as it begins. -/
def IsUnbordered (pattern : Bytes) : Prop :=
  ∀ k < pattern.length, 0 < k → ¬ pattern.drop k <+: pattern

instance (pattern : Bytes) : Decidable (IsUnbordered pattern) :=
  inferInstanceAs (Decidable (∀ k < pattern.length, 0 < k → ¬ pattern.drop k <+: pattern))

theorem find?_eq_none_iff_lacks (hne : pattern ≠ []) : find? pattern data = none ↔ data.Lacks pattern :=
  findFrom?_eq_none_iff hne

/-- Two occurrences of an unbordered pattern do not overlap. -/
theorem IsUnbordered.add_length_le {j : Nat} (hu : IsUnbordered pattern) (hi : OccursAt pattern data i)
    (hj : OccursAt pattern data j) (hij : i < j) : i + pattern.length ≤ j := by
  refine Nat.le_of_not_lt fun hlt => ?_
  obtain ⟨k, rfl⟩ := Nat.exists_eq_add_of_lt hij
  -- The end of the first one, from where the second one begins, would be a border.
  refine hu (k + 1) (by omega) (Nat.succ_pos k) ?_
  rw [occursAt_iff_drop] at hi hj
  have hend := hi.drop (k + 1)
  rw [List.drop_drop] at hend
  refine List.prefix_of_prefix_length_le hend hj ?_
  rw [List.length_drop]
  exact Nat.sub_le _ _

theorem occursAt_append_append (pattern front rest : Bytes) :
    OccursAt pattern (front ++ (pattern ++ rest)) front.length :=
  occursAt_append_add.2 (occursAt_zero.2 (List.prefix_append pattern rest))

/-- In front of an unbordered pattern there is no occurrence but those inside the bytes in front. -/
theorem not_occursAt_of_lacks (hu : IsUnbordered pattern) (hfront : front.Lacks pattern)
    (hi : i < front.length) : ¬ OccursAt pattern (front ++ (pattern ++ rest)) i := by
  intro h
  have hend := hu.add_length_le h (occursAt_append_append pattern front rest) hi
  exact hfront i (h.of_append_right hend)

/-- What stands in front of the first occurrence holds none. -/
theorem lacks_take (h : ∀ j < i, ¬ OccursAt pattern data j) (hne : pattern ≠ []) :
    Lacks (data.take i) pattern := by
  intro j hj
  have hlength := hj.add_length_le hne
  have hpos := List.length_pos_iff.2 hne
  rw [List.length_take] at hlength
  refine h j (by omega) ?_
  rw [occursAt_iff_drop, List.drop_take] at hj
  exact occursAt_iff_drop.2 (hj.trans (List.take_prefix _ _))

/-- The first occurrence of an unbordered pattern parts the data into bytes without it, the pattern and
the rest. -/
theorem find?_eq_some_iff_append (hne : pattern ≠ []) (hu : IsUnbordered pattern) :
    find? pattern data = some i ↔
      ∃ front rest, data = front ++ (pattern ++ rest) ∧ front.length = i ∧ front.Lacks pattern := by
  rw [find?, findFrom?_eq_some_iff hne]
  constructor
  · rintro ⟨k, rfl, hk, hfirst⟩
    have hlength := hk.add_length_le hne
    obtain ⟨rest, hrest⟩ := occursAt_iff_drop.1 hk
    refine ⟨data.take k, rest, ?_, ?_, lacks_take hfirst hne⟩
    · rw [hrest, List.take_append_drop]
    · rw [List.length_take]
      omega
  · rintro ⟨front, rest, rfl, rfl, hfront⟩
    refine ⟨front.length, (Nat.zero_add _).symm, ?_, fun j hj => not_occursAt_of_lacks hu hfront hj⟩
    exact occursAt_append_append pattern front rest

theorem not_lacks_append (pattern front rest : Bytes) :
    ¬ Lacks (front ++ (pattern ++ rest)) pattern := by
  intro h
  exact h front.length (occursAt_append_append pattern front rest)

/-- So the parts are determined by the data. -/
theorem append_inj_of_lacks (hne : pattern ≠ []) (hu : IsUnbordered pattern) {front' rest' : Bytes}
    (hfront : front.Lacks pattern) (hfront' : front'.Lacks pattern)
    (h : front ++ (pattern ++ rest) = front' ++ (pattern ++ rest')) : front = front' ∧ rest = rest' := by
  have hfound := (find?_eq_some_iff_append hne hu).2 ⟨front, rest, rfl, rfl, hfront⟩
  have hfound' := (find?_eq_some_iff_append hne hu).2 ⟨front', rest', h, rfl, hfront'⟩
  have hlength : front.length = front'.length := Option.some.inj (hfound.symm.trans hfound')
  obtain ⟨hfronts, htails⟩ := List.append_inj h hlength
  exact ⟨hfronts, List.append_cancel_left htails⟩

end Bytes

namespace Envelope

theorem opening_ne_nil : opening ≠ [] := by decide

theorem closing_ne_nil : closing ≠ [] := by decide

theorem isUnbordered_opening : Bytes.IsUnbordered opening := by decide

theorem isUnbordered_closing : Bytes.IsUnbordered closing := by decide

/-! ### Reading one piece -/

section Pieces

variable {gap content tail rest : Bytes} (position : Nat)

/-- Without an opening delimiter there is no envelope. -/
theorem spansFrom_of_lacks (hgap : gap.Lacks opening) : spansFrom position gap = [] := by
  have hnone := (Bytes.find?_eq_none_iff_lacks opening_ne_nil).2 hgap
  rw [spansFrom]
  split
  · rfl
  · next hfound => rw [hnone] at hfound; cases hfound

/-- Behind an opening delimiter without a closing one everything is content. -/
theorem spansFrom_append_opening (hgap : gap.Lacks opening) (htail : tail.Lacks closing) :
    spansFrom position (gap ++ (opening ++ tail)) =
      Span.unlessEmpty ⟨position + gap.length, tail, false⟩ := by
  have hopening := (Bytes.find?_eq_some_iff_append opening_ne_nil isUnbordered_opening).2
    ⟨gap, tail, rfl, rfl, hgap⟩
  have hclosing := (Bytes.find?_eq_none_iff_lacks closing_ne_nil).2 htail
  rw [spansFrom]
  split
  · next hfound => rw [hopening] at hfound; cases hfound
  · next start hfound =>
    rw [hopening] at hfound
    cases hfound
    have hbody : (gap ++ (opening ++ tail)).drop (gap.length + opening.length) = tail := by
      rw [← List.append_assoc, ← List.length_append, List.drop_left]
    simp only [hbody, hclosing]

/-- An envelope is read, and then what stands behind it. -/
theorem spansFrom_append_wrap (hgap : gap.Lacks opening) (hcontent : content.Lacks closing) :
    spansFrom position (gap ++ (wrap content ++ rest)) =
      Span.unlessEmpty ⟨position + gap.length, content, true⟩ ++
        spansFrom (position + gap.length + (wrap content).length) rest := by
  have hwrap : wrap content ++ rest = opening ++ (content ++ (closing ++ rest)) := by
    simp only [wrap, List.append_assoc]
  have hopening := (Bytes.find?_eq_some_iff_append opening_ne_nil isUnbordered_opening).2
    ⟨gap, content ++ (closing ++ rest), rfl, rfl, hgap⟩
  have hclosing := (Bytes.find?_eq_some_iff_append closing_ne_nil isUnbordered_closing).2
    ⟨content, rest, rfl, rfl, hcontent⟩
  rw [hwrap, spansFrom]
  split
  · next hfound => rw [hopening] at hfound; cases hfound
  · next start hfound =>
    rw [hopening] at hfound
    cases hfound
    have hbody : (gap ++ (opening ++ (content ++ (closing ++ rest)))).drop
        (gap.length + opening.length) = content ++ (closing ++ rest) := by
      rw [← List.append_assoc, ← List.length_append, List.drop_left]
    have hrest : (content ++ (closing ++ rest)).drop (content.length + closing.length) = rest := by
      rw [← List.append_assoc, ← List.length_append, List.drop_left]
    have hlength : (wrap content).length = opening.length + (content.length + closing.length) := by
      simp only [wrap, List.length_append, Nat.add_assoc]
    simp only [hbody, hclosing, hrest, hlength, List.take_left, Nat.add_assoc]

end Pieces

/-! ### Layouts -/

/-- A payload taken apart. -/
structure Layout where
  /-- The complete envelopes: the bytes in front of each, and its content. -/
  envelopes : List (Bytes × Bytes)
  /-- The bytes behind the last one. -/
  gap : Bytes
  /-- The content of an envelope without a closing delimiter at the end, if there is one. -/
  tail : Option Bytes
  deriving DecidableEq

namespace Layout

/-- The bytes of complete envelopes with the gaps in front of them. -/
def front (envelopes : List (Bytes × Bytes)) : Bytes :=
  envelopes.flatMap fun (gap, content) => gap ++ wrap content

/-- The bytes of an envelope without a closing delimiter. -/
def torn : Option Bytes → Bytes
  | none => []
  | some tail => opening ++ tail

/-- The payload. -/
def bytes (l : Layout) : Bytes := front l.envelopes ++ (l.gap ++ torn l.tail)

/-- Delimiters stand nowhere but around the envelopes. -/
structure IsSound (l : Layout) : Prop where
  /-- The gaps in front of envelopes hold no opening delimiter. -/
  gaps : ∀ e ∈ l.envelopes, e.1.Lacks opening
  /-- Their contents hold no closing delimiter. -/
  contents : ∀ e ∈ l.envelopes, e.2.Lacks closing
  /-- The last gap holds no opening delimiter. -/
  gap : l.gap.Lacks opening
  /-- The content at the end holds no closing delimiter. -/
  tail : ∀ tail, l.tail = some tail → tail.Lacks closing

/-- The spans of complete envelopes that begin at `position`, none for an empty content. -/
def completeSpans (position : Nat) : List (Bytes × Bytes) → List Span
  | [] => []
  | (gap, content) :: rest =>
    Span.unlessEmpty ⟨position + gap.length, content, true⟩ ++
      completeSpans (position + gap.length + (wrap content).length) rest

/-- The span of an envelope without a closing delimiter at a position, none for an empty content. -/
def tornSpan (position : Nat) : Option Bytes → List Span
  | none => []
  | some tail => Span.unlessEmpty ⟨position, tail, false⟩

/-- The spans of the envelopes. -/
def spans (l : Layout) : List Span :=
  completeSpans 0 l.envelopes ++ tornSpan ((front l.envelopes).length + l.gap.length) l.tail

theorem front_cons (e : Bytes × Bytes) (envelopes : List (Bytes × Bytes)) :
    front (e :: envelopes) = e.1 ++ (wrap e.2 ++ front envelopes) := by
  rw [front, List.flatMap_cons, List.append_assoc, front]

theorem bytes_cons (e : Bytes × Bytes) (envelopes : List (Bytes × Bytes)) (gap : Bytes)
    (tail : Option Bytes) :
    bytes ⟨e :: envelopes, gap, tail⟩ = e.1 ++ (wrap e.2 ++ bytes ⟨envelopes, gap, tail⟩) := by
  simp only [bytes, front_cons, List.append_assoc]

theorem isSound_cons {e : Bytes × Bytes} {envelopes : List (Bytes × Bytes)} {gap : Bytes}
    {tail : Option Bytes} : IsSound ⟨e :: envelopes, gap, tail⟩ ↔
      e.1.Lacks opening ∧ e.2.Lacks closing ∧ IsSound ⟨envelopes, gap, tail⟩ := by
  constructor
  · intro h
    obtain ⟨hgap, hgaps⟩ := List.forall_mem_cons.1 h.gaps
    obtain ⟨hcontent, hcontents⟩ := List.forall_mem_cons.1 h.contents
    exact ⟨hgap, hcontent, hgaps, hcontents, h.gap, h.tail⟩
  · rintro ⟨hgap, hcontent, h⟩
    exact ⟨List.forall_mem_cons.2 ⟨hgap, h.gaps⟩, List.forall_mem_cons.2 ⟨hcontent, h.contents⟩,
      h.gap, h.tail⟩

/-! ### The envelopes of a layout -/

/-- Complete envelopes are read one after the other. -/
theorem spansFrom_front {envelopes : List (Bytes × Bytes)} (hgaps : ∀ e ∈ envelopes, e.1.Lacks opening)
    (hcontents : ∀ e ∈ envelopes, e.2.Lacks closing) (position : Nat) (rest : Bytes) :
    spansFrom position (front envelopes ++ rest) =
      completeSpans position envelopes ++ spansFrom (position + (front envelopes).length) rest := by
  induction envelopes generalizing position with
  | nil => simp [front, completeSpans]
  | cons e envelopes ih =>
    obtain ⟨hgap, hgaps⟩ := List.forall_mem_cons.1 hgaps
    obtain ⟨hcontent, hcontents⟩ := List.forall_mem_cons.1 hcontents
    have hlength : position + (front (e :: envelopes)).length =
        position + e.1.length + (wrap e.2).length + (front envelopes).length := by
      rw [front_cons, List.length_append, List.length_append]
      omega
    rw [hlength, front_cons, List.append_assoc, List.append_assoc, spansFrom_append_wrap _ hgap hcontent,
      ih hgaps hcontents, completeSpans, List.append_assoc]

/-- **The envelopes that are found are those of the layout.** -/
theorem IsSound.spans_bytes {l : Layout} (h : l.IsSound) : Envelope.spans l.bytes = l.spans := by
  rw [Envelope.spans, bytes, spansFrom_front h.gaps h.contents, spans, Nat.zero_add]
  congr 1
  cases htail : l.tail with
  | none => rw [torn, List.append_nil, tornSpan, spansFrom_of_lacks _ h.gap]
  | some tail => rw [torn, tornSpan, spansFrom_append_opening _ h.gap (h.tail tail htail)]

/-! ### One layout for each payload -/

section Unique

variable {gap gap' content rest : Bytes} {tail tail' : Option Bytes}

/-- What stands behind the last complete envelope is no complete envelope. -/
theorem gap_torn_ne (hgap : gap.Lacks opening) (htail : ∀ t, tail = some t → t.Lacks closing)
    (hgap' : gap'.Lacks opening) : gap ++ torn tail ≠ gap' ++ (wrap content ++ rest) := by
  have hwrap : wrap content ++ rest = opening ++ (content ++ (closing ++ rest)) := by
    simp only [wrap, List.append_assoc]
  rw [hwrap]
  intro h
  cases tail with
  | none =>
    rw [torn, List.append_nil] at h
    exact Bytes.not_lacks_append _ _ _ (h ▸ hgap)
  | some t =>
    obtain ⟨-, rfl⟩ := Bytes.append_inj_of_lacks opening_ne_nil isUnbordered_opening hgap hgap' h
    exact Bytes.not_lacks_append _ _ _ (htail _ rfl)

theorem gap_torn_inj (hgap : gap.Lacks opening) (hgap' : gap'.Lacks opening)
    (h : gap ++ torn tail = gap' ++ torn tail') : gap = gap' ∧ tail = tail' := by
  cases tail with
  | none =>
    cases tail' with
    | none =>
      rw [torn, List.append_nil, List.append_nil] at h
      exact ⟨h, rfl⟩
    | some t' =>
      rw [torn, List.append_nil] at h
      exact absurd (h ▸ hgap) (Bytes.not_lacks_append _ _ _)
  | some t =>
    cases tail' with
    | none =>
      rw [torn, torn, List.append_nil] at h
      exact absurd (h ▸ hgap') (Bytes.not_lacks_append _ _ _)
    | some t' =>
      obtain ⟨rfl, rfl⟩ := Bytes.append_inj_of_lacks opening_ne_nil isUnbordered_opening hgap hgap' h
      exact ⟨rfl, rfl⟩

end Unique

/-- A payload has at most one layout. -/
theorem IsSound.unique {l l' : Layout} (h : l.IsSound) (h' : l'.IsSound) (hbytes : l.bytes = l'.bytes) :
    l = l' := by
  obtain ⟨envelopes, gap, tail⟩ := l
  obtain ⟨envelopes', gap', tail'⟩ := l'
  induction envelopes generalizing envelopes' with
  | nil =>
    cases envelopes' with
    | nil =>
      obtain ⟨rfl, rfl⟩ := gap_torn_inj h.gap h'.gap hbytes
      rfl
    | cons e' envelopes' =>
      rw [bytes_cons] at hbytes
      exact absurd hbytes (gap_torn_ne h.gap h.tail (isSound_cons.1 h').1)
  | cons e envelopes ih =>
    obtain ⟨hgap, hcontent, hrest⟩ := isSound_cons.1 h
    rw [bytes_cons] at hbytes
    cases envelopes' with
    | nil => exact absurd hbytes.symm (gap_torn_ne h'.gap h'.tail hgap)
    | cons e' envelopes' =>
      obtain ⟨hgap', hcontent', hrest'⟩ := isSound_cons.1 h'
      rw [bytes_cons] at hbytes
      simp only [wrap, List.append_assoc] at hbytes
      -- The gaps are the same, then the contents, then what stands behind the envelope.
      obtain ⟨hgaps, hbytes⟩ :=
        Bytes.append_inj_of_lacks opening_ne_nil isUnbordered_opening hgap hgap' hbytes
      obtain ⟨hcontents, hbytes⟩ :=
        Bytes.append_inj_of_lacks closing_ne_nil isUnbordered_closing hcontent hcontent' hbytes
      cases ih hrest envelopes' hrest' hbytes
      rw [Prod.ext hgaps hcontents]

/-- A payload has a layout. -/
theorem exists_isSound (payload : Bytes) : ∃ l : Layout, l.IsSound ∧ l.bytes = payload := by
  induction hlength : payload.length using Nat.strong_induction_on generalizing payload with
  | _ n ih =>
    cases hopening : Bytes.find? opening payload with
    | none =>
      have hgap := (Bytes.find?_eq_none_iff_lacks opening_ne_nil).1 hopening
      refine ⟨⟨[], payload, none⟩, ⟨?_, ?_, hgap, ?_⟩, ?_⟩
      · simp
      · simp
      · simp
      · simp [bytes, front, torn]
    | some start =>
      obtain ⟨gap, body, rfl, -, hgap⟩ :=
        (Bytes.find?_eq_some_iff_append opening_ne_nil isUnbordered_opening).1 hopening
      cases hclosing : Bytes.find? closing body with
      | none =>
        have htail := (Bytes.find?_eq_none_iff_lacks closing_ne_nil).1 hclosing
        refine ⟨⟨[], gap, some body⟩, ⟨?_, ?_, hgap, ?_⟩, ?_⟩
        · simp
        · simp
        · rintro _ ⟨⟩
          exact htail
        · simp [bytes, front, torn]
      | some stop =>
        obtain ⟨content, rest, rfl, -, hcontent⟩ :=
          (Bytes.find?_eq_some_iff_append closing_ne_nil isUnbordered_closing).1 hclosing
        have hshorter : rest.length < n := by
          rw [← hlength]
          simp only [List.length_append, opening, List.length_cons]
          omega
        obtain ⟨⟨envelopes, last, tail⟩, hsound, hbytes⟩ := ih _ hshorter rest rfl
        refine ⟨⟨(gap, content) :: envelopes, last, tail⟩, isSound_cons.2 ⟨hgap, hcontent, hsound⟩, ?_⟩
        rw [bytes_cons, hbytes]
        simp only [wrap, List.append_assoc]

/-- **Every payload has one layout.** -/
theorem existsUnique_isSound (payload : Bytes) : ∃! l : Layout, l.IsSound ∧ l.bytes = payload := by
  obtain ⟨l, hsound, hbytes⟩ := exists_isSound payload
  exact ⟨l, ⟨hsound, hbytes⟩, fun l' h' => h'.1.unique hsound (h'.2.trans hbytes.symm)⟩

end Layout

/-! ### Envelopes stand apart -/

/-- The bytes of an envelope, with the delimiters that it has. -/
def Span.bytes (s : Span) : Bytes := if s.complete then wrap s.content else opening ++ s.content

theorem Span.mem_unlessEmpty {s t : Span} : s ∈ t.unlessEmpty ↔ s = t ∧ t.content ≠ [] := by
  unfold unlessEmpty
  split
  · next hempty => simp [List.isEmpty_iff.1 hempty]
  · next hempty => simpa [List.isEmpty_iff] using fun _ => hempty

/-- The envelopes of the bytes that begin at `position` of a payload stand where they are said to be, one
behind the other, and only the last one may lack its closing delimiter. -/
structure StandApart (position : Nat) (data : Bytes) (spans : List Span) : Prop where
  /-- Each has content. -/
  nonempty : ∀ s ∈ spans, s.content ≠ []
  /-- Each stands at its offset. -/
  occurs : ∀ s ∈ spans, ∃ i, s.offset = position + i ∧ Bytes.OccursAt s.bytes data i
  /-- In front of another one each is complete and ends before the other begins. -/
  apart : spans.Pairwise fun s t => s.complete = true ∧ s.offset + s.bytes.length ≤ t.offset

namespace StandApart

variable {position : Nat} {data rest : Bytes} {spans spans' : List Span}

theorem nil (position : Nat) (data : Bytes) : StandApart position data [] where
  nonempty := List.forall_mem_nil _
  occurs := List.forall_mem_nil _
  apart := .nil

/-- One envelope with other bytes in front. -/
theorem unlessEmpty {gap : Bytes} {s : Span} (hoffset : s.offset = position + gap.length) :
    StandApart position (gap ++ s.bytes) s.unlessEmpty where
  nonempty t ht := by
    obtain ⟨rfl, hcontent⟩ := Span.mem_unlessEmpty.1 ht
    exact hcontent
  occurs t ht := by
    obtain ⟨rfl, -⟩ := Span.mem_unlessEmpty.1 ht
    have hself := Bytes.occursAt_zero.2 (List.prefix_refl t.bytes)
    exact ⟨gap.length, hoffset, Bytes.occursAt_append_add.2 hself⟩
  apart := by
    unfold Span.unlessEmpty
    split
    · exact .nil
    · exact List.pairwise_singleton _ _

/-- An envelope ends inside the bytes. -/
theorem add_length_le (h : StandApart position data spans) {s : Span} (hs : s ∈ spans) :
    s.offset + s.bytes.length ≤ position + data.length := by
  obtain ⟨i, hoffset, hoccurs⟩ := h.occurs s hs
  have hne : s.bytes ≠ [] := by
    unfold Span.bytes
    split <;> simp [wrap, opening]
  have hle := hoccurs.add_length_le hne
  omega

/-- Behind complete envelopes come those of the rest. -/
theorem append (h : StandApart position data spans) (hcomplete : ∀ s ∈ spans, s.complete = true)
    (h' : StandApart (position + data.length) rest spans') :
    StandApart position (data ++ rest) (spans ++ spans') where
  nonempty := List.forall_mem_append.2 ⟨h.nonempty, h'.nonempty⟩
  occurs := by
    refine List.forall_mem_append.2 ⟨fun s hs => ?_, fun s hs => ?_⟩
    · obtain ⟨i, hoffset, hoccurs⟩ := h.occurs s hs
      exact ⟨i, hoffset, hoccurs.append_right⟩
    · obtain ⟨i, hoffset, hoccurs⟩ := h'.occurs s hs
      exact ⟨data.length + i, by omega, Bytes.occursAt_append_add.2 hoccurs⟩
  apart := by
    refine List.pairwise_append.2 ⟨h.apart, h'.apart, fun s hs t ht => ⟨hcomplete s hs, ?_⟩⟩
    obtain ⟨i, hoffset, -⟩ := h'.occurs t ht
    have hle := h.add_length_le hs
    omega

end StandApart

/-- A span of complete envelopes is complete, and has the content of one of them. -/
theorem Layout.of_mem_completeSpans {position : Nat} {envelopes : List (Bytes × Bytes)} {s : Span}
    (hs : s ∈ completeSpans position envelopes) :
    s.complete = true ∧ ∃ e ∈ envelopes, s.content = e.2 := by
  induction envelopes generalizing position with
  | nil => cases hs
  | cons e envelopes ih =>
    rcases List.mem_append.1 hs with hs | hs
    · obtain ⟨rfl, -⟩ := Span.mem_unlessEmpty.1 hs
      exact ⟨rfl, e, List.mem_cons_self, rfl⟩
    · obtain ⟨hcomplete, e', he', hcontent⟩ := ih hs
      exact ⟨hcomplete, e', List.mem_cons_of_mem _ he', hcontent⟩

/-- Envelopes that are put one behind the other stand apart. -/
theorem Layout.standApart_front (position : Nat) (envelopes : List (Bytes × Bytes)) :
    StandApart position (front envelopes) (completeSpans position envelopes) := by
  induction envelopes generalizing position with
  | nil => exact .nil position []
  | cons e envelopes ih =>
    have hfirst : StandApart position (e.1 ++ wrap e.2)
        (Span.unlessEmpty ⟨position + e.1.length, e.2, true⟩) :=
      .unlessEmpty (s := ⟨position + e.1.length, e.2, true⟩) rfl
    have hcomplete : ∀ s ∈ Span.unlessEmpty ⟨position + e.1.length, e.2, true⟩, s.complete = true := by
      intro s hs
      obtain ⟨rfl, -⟩ := Span.mem_unlessEmpty.1 hs
      rfl
    rw [front_cons, ← List.append_assoc]
    refine hfirst.append hcomplete ?_
    rw [List.length_append, ← Nat.add_assoc]
    exact ih _

theorem Layout.standApart (l : Layout) : StandApart 0 l.bytes l.spans := by
  refine (standApart_front 0 l.envelopes).append (fun s hs => (of_mem_completeSpans hs).1) ?_
  cases l.tail with
  | none => exact .nil _ _
  | some tail =>
    rw [Nat.zero_add]
    exact .unlessEmpty (s := ⟨(front l.envelopes).length + l.gap.length, tail, false⟩) rfl

/-- **The envelopes of a payload stand apart.** -/
theorem standApart_spans (payload : Bytes) : StandApart 0 payload (spans payload) := by
  obtain ⟨l, hsound, rfl⟩ := Layout.exists_isSound payload
  rw [hsound.spans_bytes]
  exact l.standApart

/-- **Finding envelopes undoes putting them one behind the other.** The envelopes of a layout are those
that are found, every payload has one layout, and so its envelopes stand apart. -/
theorem spans_layout :
    (∀ l : Layout, l.IsSound → spans l.bytes = l.spans) ∧
      (∀ payload, ∃! l : Layout, l.IsSound ∧ l.bytes = payload) ∧
      ∀ payload, StandApart 0 payload (spans payload) :=
  ⟨fun _ h => h.spans_bytes, Layout.existsUnique_isSound, standApart_spans⟩

/-- Gaps and contents that end inside a delimiter, a content with an opening delimiter in it, an empty
envelope, and a torn one. -/
def Layout.misleading : Layout where
  envelopes := [([0xFB], []), ([0xFB, 0xFB, 0xFB], opening ++ [0x11, 0xFE, 0xFE, 0x0E]), ([], [0xFE])]
  gap := [0xFB, 0xFB]
  tail := some [0x25, 0xFE, 0xFE]

theorem Layout.isSound_misleading : Layout.misleading.IsSound where
  gaps := by
    simp only [← Bytes.find?_eq_none_iff_lacks opening_ne_nil]
    decide
  contents := by
    simp only [← Bytes.find?_eq_none_iff_lacks closing_ne_nil]
    decide
  gap := (Bytes.find?_eq_none_iff_lacks opening_ne_nil).1 (by decide)
  tail := by
    rintro _ ⟨⟩
    exact (Bytes.find?_eq_none_iff_lacks closing_ne_nil).1 (by decide)

theorem spans_layout_misleading :
    Layout.misleading.IsSound ∧
      spans Layout.misleading.bytes =
        [⟨12, opening ++ [0x11, 0xFE, 0xFE, 0x0E], true⟩, ⟨28, [0xFE], true⟩,
          ⟨39, [0x25, 0xFE, 0xFE], false⟩] :=
  ⟨Layout.isSound_misleading, (spans_layout.1 _ Layout.isSound_misleading).trans (by decide)⟩

end Envelope

end MeterBridge
