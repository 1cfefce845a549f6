import MeterBridge.Text.Lines

/-!
# Lines of a text in UTF-8

In UTF-8 a line feed and a carriage return are bytes of their own, and no other character has a byte
of that value. So it does not matter whether a text is cut into lines before or after its bytes are
read.

* `utf8Lines_utf8` — the lines of the bytes of a text are the lines of the text.
* `linesFrom_flatMap` — lines that are put together again are the lines of what they make up.
-/

namespace MeterBridge.Text

/-- The bytes of a text in UTF-8. -/
def utf8 (cs : List Char) : List UInt8 := cs.flatMap String.utf8EncodeChar

theorem toList_toUTF8 (s : String) : s.toUTF8.data.toList = utf8 s.toList := by
  rw [String.toUTF8, ← String.utf8Encode_toList, List.utf8Encode, List.toList_data_toByteArray, utf8]

/-- The bytes of a text are read as the text. -/
theorem ofUTF8?_utf8 (cs : List Char) : ofUTF8? (utf8 cs) = some (String.ofList cs) := by
  have hbytes : (⟨(utf8 cs).toArray⟩ : ByteArray) = cs.utf8Encode := by
    rw [List.utf8Encode, ← ByteArray.ext_iff.2 List.data_toByteArray]
    rfl
  rw [ofUTF8?, hbytes, String.fromUTF8?, dif_pos ByteArray.isValidUTF8_utf8Encode]
  rfl

/-- The bytes of an ASCII text are its characters. -/
theorem utf8_eq_map {cs : List Char} (h : ∀ c ∈ cs, c.toNat < 128) :
    utf8 cs = cs.map fun c => UInt8.ofNat c.toNat := by
  induction cs with
  | nil => rfl
  | cons c cs ih =>
    obtain ⟨hc, hcs⟩ := List.forall_mem_cons.1 h
    have hchar : String.utf8EncodeChar c = [UInt8.ofNat c.toNat] := by
      have hle : c.toNat ≤ 127 := Nat.le_of_lt_succ hc
      simp [String.utf8EncodeChar, hle]
    have hrest := ih hcs
    rw [utf8] at hrest ⊢
    rw [List.flatMap_cons, hchar, hrest]
    rfl

/-! ### Bytes of one character -/

theorem le_toNat_ofNat_mod_add (n : Nat) {k m : Nat} (hk : 0 < k) (hm : 128 ≤ m) (hsum : k + m ≤ 256) :
    128 ≤ (UInt8.ofNat (n % k + m)).toNat := by
  have hmod : n % k < k := Nat.mod_lt n hk
  rw [UInt8.toNat_ofNat_of_lt' (show n % k + m < 256 by omega)]
  omega

/-- A byte below 128 stands for the character of that code. -/
theorem toNat_eq_of_mem_utf8EncodeChar {c : Char} {b : UInt8} (h : b ∈ String.utf8EncodeChar c)
    (hb : b.toNat < 128) : c.toNat = b.toNat := by
  -- All bytes of a longer form are at least 128.
  have hlarge : ∀ {n k m : Nat}, 0 < k → 128 ≤ m → k + m ≤ 256 → b ≠ UInt8.ofNat (n % k + m) := by
    rintro n k m hk hm hsum rfl
    exact absurd hb (Nat.not_lt.2 (le_toNat_ofNat_mod_add n hk hm hsum))
  revert h
  fun_cases String.utf8EncodeChar c with
  | case1 v hv =>
    intro h
    rw [List.mem_singleton.1 h, UInt8.toNat_ofNat_of_lt' (Nat.lt_of_le_of_lt hv (by decide))]
    rfl
  | case2 v =>
    simp only [List.mem_cons, List.not_mem_nil, or_false]
    rintro (h | h) <;> exact absurd h (hlarge (by decide) (by decide) (by decide))
  | case3 v =>
    simp only [List.mem_cons, List.not_mem_nil, or_false]
    rintro (h | h | h) <;> exact absurd h (hlarge (by decide) (by decide) (by decide))
  | case4 v =>
    simp only [List.mem_cons, List.not_mem_nil, or_false]
    rintro (h | h | h | h) <;> exact absurd h (hlarge (by decide) (by decide) (by decide))

/-- An ASCII character has one byte, and no other character has that byte. -/
theorem eq_of_mem_utf8EncodeChar {c d : Char} (hd : d.toNat < 128)
    (h : UInt8.ofNat d.toNat ∈ String.utf8EncodeChar c) : c = d := by
  have hbyte : (UInt8.ofNat d.toNat).toNat = d.toNat :=
    UInt8.toNat_ofNat_of_lt' (Nat.lt_trans hd (by decide))
  have hvalue := toNat_eq_of_mem_utf8EncodeChar h (by rwa [hbyte])
  exact Char.toNat_inj.1 (hvalue.trans hbyte)

/-! ### Cutting -/

section Cutting

variable {α : Type} [DecidableEq α] {lineFeed carriageReturn : α}

/-- Symbols other than a line feed are read into the line. -/
theorem linesFrom_append_of_not_mem {front : List α} (h : lineFeed ∉ front) (read rest : List α) :
    linesFrom lineFeed carriageReturn read (front ++ rest) =
      linesFrom lineFeed carriageReturn (front.reverse ++ read) rest := by
  induction front generalizing read with
  | nil => rfl
  | cons c front ih =>
    obtain ⟨hc, hfront⟩ := not_or.1 (mt List.mem_cons.2 h)
    rw [List.cons_append, linesFrom, if_neg (Ne.symm hc), ih hfront, List.reverse_cons,
      List.append_assoc, List.singleton_append]

/-- Without a line feed there is one line at most. -/
theorem length_linesFrom_of_not_mem {text : List α} (h : lineFeed ∉ text)
    (carriageReturn : α) (read : List α) :
    (linesFrom lineFeed carriageReturn read text).length ≤ 1 := by
  rw [← List.append_nil text, linesFrom_append_of_not_mem h, linesFrom]
  split
  · exact Nat.zero_le 1
  · exact Nat.le_refl 1

/-- The first line ends at the first line feed. -/
theorem linesFrom_append_cons {first : List α} (h : lineFeed ∉ first) (carriageReturn : α) (rest : List α) :
    linesFrom lineFeed carriageReturn [] (first ++ lineFeed :: rest) =
      (withoutReturn carriageReturn first.reverse).reverse :: linesFrom lineFeed carriageReturn [] rest := by
  rw [linesFrom_append_of_not_mem h, List.append_nil, linesFrom, if_pos rfl]

/-- The first lines of a text are the lines of a text that it begins with. -/
theorem exists_prefix_linesFrom {text : List α} {pre post : List (List α)}
    (h : linesFrom lineFeed carriageReturn [] text = pre ++ post) :
    ∃ front, front <+: text ∧ linesFrom lineFeed carriageReturn [] front = pre := by
  induction pre generalizing text with
  | nil => exact ⟨[], List.nil_prefix, rfl⟩
  | cons line pre ih =>
    by_cases hmem : lineFeed ∈ text
    · obtain ⟨first, rest, rfl, hfirst⟩ := List.eq_append_cons_of_mem hmem
      rw [linesFrom_append_cons hfirst, List.cons_append, List.cons.injEq] at h
      obtain ⟨rfl, hrest⟩ := h
      obtain ⟨front, hfront, rfl⟩ := ih hrest
      refine ⟨first ++ lineFeed :: front, ?_, linesFrom_append_cons hfirst carriageReturn front⟩
      exact (List.prefix_append_right_inj first).2 (List.cons_prefix_cons.2 ⟨rfl, hfront⟩)
    · have hlength := length_linesFrom_of_not_mem hmem carriageReturn []
      rw [h, List.length_append, List.length_cons] at hlength
      have hpre : pre = [] := List.eq_nil_of_length_eq_zero (by omega)
      have hpost : post = [] := List.eq_nil_of_length_eq_zero (by omega)
      refine ⟨text, List.prefix_rfl, ?_⟩
      rw [h, hpre, hpost, List.append_nil]

theorem withoutReturn_of_not_mem {line : List α} (h : carriageReturn ∉ line) :
    withoutReturn carriageReturn line = line := by
  cases line with
  | nil => rfl
  | cons c rest =>
    refine if_neg fun hc => h ?_
    rw [hc]
    exact List.mem_cons_self

/-- Lines with their line feeds put together have these lines. -/
theorem linesFrom_flatMap {ls : List (List α)}
    (h : ∀ line ∈ ls, lineFeed ∉ line ∧ carriageReturn ∉ line) :
    linesFrom lineFeed carriageReturn [] (ls.flatMap (· ++ [lineFeed])) = ls := by
  induction ls with
  | nil => rfl
  | cons line ls ih =>
    obtain ⟨hline, hls⟩ := List.forall_mem_cons.1 h
    rw [List.flatMap_cons, List.append_assoc, List.singleton_append, linesFrom_append_cons hline.1, ih hls,
      withoutReturn_of_not_mem (mt List.mem_reverse.1 hline.2), List.reverse_reverse]

/-- So do lines with line feeds between them, unless there is an empty one. -/
theorem linesFrom_intercalate {ls : List (List α)}
    (h : ∀ line ∈ ls, line ≠ [] ∧ lineFeed ∉ line ∧ carriageReturn ∉ line) :
    linesFrom lineFeed carriageReturn [] ([lineFeed].intercalate ls) = ls := by
  induction ls with
  | nil => rfl
  | cons line ls ih =>
    obtain ⟨⟨hne, hfeed, hreturn⟩, hls⟩ := List.forall_mem_cons.1 h
    cases ls with
    | nil =>
      have hempty : line.reverse.isEmpty = false := by simpa using hne
      rw [List.intercalate_singleton, ← List.append_nil line, linesFrom_append_of_not_mem hfeed,
        List.append_nil, linesFrom, hempty, if_neg Bool.false_ne_true, List.reverse_reverse,
        List.append_nil]
    | cons next ls =>
      rw [List.intercalate_cons_cons, List.append_assoc, List.singleton_append, linesFrom_append_cons hfeed,
        ih hls, withoutReturn_of_not_mem (mt List.mem_reverse.1 hreturn), List.reverse_reverse]

end Cutting

/-! ### Bytes and characters -/

theorem utf8_append (cs ds : List Char) : utf8 (cs ++ ds) = utf8 cs ++ utf8 ds :=
  List.flatMap_append

theorem utf8_reverse_cons (c : Char) (cs : List Char) :
    (utf8 (c :: cs).reverse).reverse =
      (String.utf8EncodeChar c).reverse ++ (utf8 cs.reverse).reverse := by
  rw [List.reverse_cons, utf8_append, List.reverse_append, utf8, List.flatMap_singleton]

/-- A carriage return at the end of a line is one in bytes as well. -/
theorem withoutReturn_utf8 (read : List Char) :
    withoutReturn 13 (utf8 read.reverse).reverse =
      (utf8 (withoutReturn '\r' read).reverse).reverse := by
  cases read with
  | nil => rfl
  | cons c read =>
    rw [utf8_reverse_cons, withoutReturn]
    split
    · next hc => rw [hc]; rfl
    · next hc =>
      rw [utf8_reverse_cons]
      have hnot : 13 ∉ String.utf8EncodeChar c := mt (eq_of_mem_utf8EncodeChar (d := '\r') (by decide)) hc
      cases hreverse : (String.utf8EncodeChar c).reverse with
      | nil => exact absurd (List.reverse_eq_nil_iff.1 hreverse) String.utf8EncodeChar_ne_nil
      | cons b bs =>
        have hb : b ∈ String.utf8EncodeChar c := List.mem_reverse.1 (hreverse ▸ List.mem_cons_self)
        refine if_neg fun h => hnot ?_
        rwa [h] at hb

/-- Cutting a text in bytes is cutting it in characters. -/
theorem linesFrom_utf8 (read cs : List Char) :
    linesFrom 10 13 (utf8 read.reverse).reverse (utf8 cs) =
      (linesFrom '\n' '\r' read cs).map utf8 := by
  induction cs generalizing read with
  | nil =>
    cases read with
    | nil => rfl
    | cons c read => simp [linesFrom, utf8]
  | cons c cs ih =>
    have hcs : utf8 (c :: cs) = String.utf8EncodeChar c ++ utf8 cs := List.flatMap_cons
    rw [hcs, linesFrom]
    split
    · next hc =>
      subst hc
      rw [List.map_cons, ← ih []]
      change (withoutReturn 13 (utf8 read.reverse).reverse).reverse :: linesFrom 10 13 [] (utf8 cs) = _
      rw [withoutReturn_utf8, List.reverse_reverse]
      rfl
    · next hc =>
      have hnot : 10 ∉ String.utf8EncodeChar c := mt (eq_of_mem_utf8EncodeChar (d := '\n') (by decide)) hc
      rw [linesFrom_append_of_not_mem hnot, ← utf8_reverse_cons, ih]

/-- A text that ends a line and one behind it have the lines of both. -/
theorem utf8Lines_append {a b : List UInt8} (ha : a.getLast? = some 10) :
    utf8Lines (a ++ b) = utf8Lines a ++ utf8Lines b := by
  obtain ⟨front, rfl⟩ := List.getLast?_eq_some_iff.1 ha
  rw [utf8Lines, byteLines, List.append_assoc, List.singleton_append, linesFrom_append,
    List.map_append]
  rfl

/-- The first lines of a text in UTF-8 are the lines of a text that it begins with. -/
theorem exists_prefix_utf8Lines {text : List UInt8} {pre post : List (Option String)}
    (h : utf8Lines text = pre ++ post) : ∃ front, front <+: text ∧ utf8Lines front = pre := by
  obtain ⟨pre', post', hlines, rfl, rfl⟩ := List.map_eq_append_iff.1 h
  obtain ⟨front, hfront, hpre⟩ := exists_prefix_linesFrom hlines
  refine ⟨front, hfront, ?_⟩
  rw [utf8Lines, byteLines, hpre]

/-- **Lines in bytes**: the lines of the bytes of a text are the lines of the text. -/
theorem utf8Lines_utf8 (cs : List Char) :
    utf8Lines (utf8 cs) = (lines cs).map fun line => some (String.ofList line) := by
  have hlines : byteLines (utf8 cs) = (lines cs).map utf8 := linesFrom_utf8 [] cs
  rw [utf8Lines, hlines, List.map_map]
  exact List.map_congr_left fun line _ => ofUTF8?_utf8 line

end MeterBridge.Text
