import MeterBridge.Json.Parser
import MeterBridge.Proofs.Json.Number
import MeterBridge.Proofs.Json.StringLiteral

/-!
# Reading compact JSON back

A value whose literals obey their grammars (`IsSpelled`) is read back from its compact text. The text is
cut into the tokens of the value (`scans_compactChars`). A number or a word ends only with the character
behind it, so the scanner is said to have read a token once no character but one of a number or a word can
belong to it (`Token.HasRead`). From the tokens the parser builds the value, whatever arrays and objects
stand around it (`Parser.foldlM_tokens`).

* `parse?_compact` — a value is read back from its compact text.
-/

namespace MeterBridge.Json

/-! ### Values that are spelled right -/

mutual

/-- The literals of the value obey their grammars. -/
def IsSpelled : Json → Prop
  | .null | .bool _ => True
  | .number literal => Number.isWellFormed literal
  | .string literal => StringLiteral.IsSpelled literal
  | .array items => AreItemsSpelled items
  | .object fields => AreFieldsSpelled fields

/-- The literals of all items do. -/
def AreItemsSpelled : List Json → Prop
  | [] => True
  | item :: rest => item.IsSpelled ∧ AreItemsSpelled rest

/-- The keys and the literals of all values do. -/
def AreFieldsSpelled : List (List Char × Json) → Prop
  | [] => True
  | (key, value) :: rest => StringLiteral.IsSpelled key ∧ value.IsSpelled ∧ AreFieldsSpelled rest

end

theorem areItemsSpelled_iff {items : List Json} :
    AreItemsSpelled items ↔ ∀ item ∈ items, item.IsSpelled := by
  induction items with
  | nil => simp [AreItemsSpelled]
  | cons item rest ih => rw [AreItemsSpelled, ih, List.forall_mem_cons]

theorem areFieldsSpelled_iff {fields : List (List Char × Json)} :
    AreFieldsSpelled fields ↔
      ∀ field ∈ fields, StringLiteral.IsSpelled field.1 ∧ field.2.IsSpelled := by
  induction fields with
  | nil => simp [AreFieldsSpelled]
  | cons field rest ih => rw [AreFieldsSpelled, ih, List.forall_mem_cons, and_assoc]

/-! ### The characters of a compact text -/

section Characters

variable {text front back literal : List Char} {before mark behind c : Char}

/-- The text holds no control character. -/
def IsPrintable (text : List Char) : Prop := ∀ c ∈ text, 0x20 ≤ c.toNat

theorem IsPrintable.enclosed (h : IsPrintable text) (hbefore : 0x20 ≤ before.toNat)
    (hbehind : 0x20 ≤ behind.toNat) : IsPrintable (before :: text ++ [behind]) :=
  List.forall_mem_append.2 ⟨List.forall_mem_cons.2 ⟨hbefore, h⟩, List.forall_mem_singleton.2 hbehind⟩

theorem IsPrintable.joined (h : IsPrintable front) (hmark : 0x20 ≤ mark.toNat) (h' : IsPrintable back) :
    IsPrintable (front ++ mark :: back) :=
  List.forall_mem_append.2 ⟨h, List.forall_mem_cons.2 ⟨hmark, h'⟩⟩

theorem isPrintable_between (h : StringLiteral.IsSpelled literal) : IsPrintable (between literal) :=
  IsPrintable.enclosed h.le_toNat (by decide) (by decide)

theorem le_toNat_of_inNumber (hc : Token.inNumber c) : 0x20 ≤ c.toNat := by
  simp only [Token.inNumber, Bool.or_eq_true, beq_iff_eq, or_assoc] at hc
  rcases hc with hdigit | rfl | rfl | rfl | rfl | rfl
  · exact Nat.le_trans (by decide) (Char.isDigit_iff_toNat.1 hdigit).1
  · decide
  · decide
  · decide
  · decide
  · decide

mutual

/-- **No control character stands in a compact text.** -/
theorem isPrintable_compactChars : ∀ j : Json, j.IsSpelled → IsPrintable j.compactChars
  | .null, _ => by simp [IsPrintable, compactChars]
  | .bool true, _ => by simp [IsPrintable, compactChars]
  | .bool false, _ => by simp [IsPrintable, compactChars]
  | .number _, h => fun c hc => le_toNat_of_inNumber (Number.inNumber_of_isWellFormed h c hc)
  | .string _, h => isPrintable_between h
  | .array items, h => (isPrintable_itemsChars items h).enclosed (by decide) (by decide)
  | .object fields, h => (isPrintable_fieldsChars fields h).enclosed (by decide) (by decide)

theorem isPrintable_itemsChars :
    ∀ items : List Json, AreItemsSpelled items → IsPrintable (itemsChars items)
  | [], _ => List.forall_mem_nil _
  | [item], h => isPrintable_compactChars item h.1
  | item :: next :: rest, h =>
    (isPrintable_compactChars item h.1).joined (by decide) (isPrintable_itemsChars (next :: rest) h.2)

theorem isPrintable_fieldsChars :
    ∀ fields : List (List Char × Json), AreFieldsSpelled fields → IsPrintable (fieldsChars fields)
  | [], _ => List.forall_mem_nil _
  | [(_, value)], h =>
    (isPrintable_between h.1).joined (by decide) (isPrintable_compactChars value h.2.1)
  | (_, value) :: next :: rest, h =>
    ((isPrintable_between h.1).joined (by decide) (isPrintable_compactChars value h.2.1)).joined
      (by decide) (isPrintable_fieldsChars (next :: rest) h.2.2)

end

end Characters

/-! ### The tokens of a value -/

mutual

/-- The tokens that spell a value. -/
def tokens : Json → List Token
  | .null => [.null]
  | .bool value => [.bool value]
  | .number literal => [.number literal]
  | .string literal => [.string literal]
  | .array items => .beginArray :: itemsTokens items ++ [.endArray]
  | .object fields => .beginObject :: fieldsTokens fields ++ [.endObject]

/-- The tokens of items with commas between them. -/
def itemsTokens : List Json → List Token
  | [] => []
  | [item] => item.tokens
  | item :: next :: rest => item.tokens ++ .comma :: itemsTokens (next :: rest)

/-- The tokens of fields with commas between them. -/
def fieldsTokens : List (List Char × Json) → List Token
  | [] => []
  | [(key, value)] => .string key :: .colon :: value.tokens
  | (key, value) :: next :: rest =>
    .string key :: .colon :: value.tokens ++ .comma :: fieldsTokens (next :: rest)

end

namespace Token

/-! ### Scanning -/

/-- The scanner has read some tokens, latest first. The last one is complete, unless a character of a
number or a word follows. -/
structure HasRead (s : Scanner) (read : List Token) : Prop where
  /-- Any other character is read as it is between tokens. -/
  next : ∀ c, inNumber c = false → c.isLower = false → step s c = start read c
  /-- The text may end here. -/
  stops : Token.finish s = some read

/-- From `s` a text is read, and then the scanner has read some tokens. -/
def Scans (s : Scanner) (text : List Char) (read : List Token) : Prop :=
  ∃ s', text.foldlM step s = some s' ∧ HasRead s' read

variable {s s' : Scanner} {text front back literal : List Char} {read read' : List Token} {c : Char}

theorem hasRead_between (read : List Token) : HasRead ⟨.between, read⟩ read where
  next _ _ _ := rfl
  stops := rfl

theorem hasRead_number (read : List Token) (h : Number.isWellFormed literal) :
    HasRead ⟨.number literal.reverse, read⟩ (.number literal :: read) where
  next c hc _ := by simp [step, hc, ofNumber?, h]
  stops := by simp [Token.finish, ofNumber?, h]

theorem hasRead_word {token : Token} (word : List Char) (read : List Token)
    (h : ofWord? word = some token) : HasRead ⟨.word word.reverse, read⟩ (token :: read) where
  next c _ hc := by simp [step, hc, h]
  stops := by simp [Token.finish, h]

namespace Scans

theorem nil (read : List Token) : Scans ⟨.between, read⟩ [] read := ⟨_, rfl, hasRead_between read⟩

/-- The first character is read, and then the rest. -/
theorem cons (hc : step s c = some s') (h : Scans s' text read) : Scans s (c :: text) read := by
  obtain ⟨s'', htext, hread⟩ := h
  exact ⟨s'', by rw [List.foldlM_cons, hc]; exact htext, hread⟩

/-- Behind complete tokens the rest is read as it is between tokens. -/
theorem append (h : Scans s front read) (hnumber : inNumber c = false) (hword : c.isLower = false)
    (h' : Scans ⟨.between, read⟩ (c :: back) read') : Scans s (front ++ c :: back) read' := by
  obtain ⟨s', hfront, hread⟩ := h
  obtain ⟨s'', hback, hread'⟩ := h'
  refine ⟨s'', ?_, hread'⟩
  rw [List.foldlM_append, hfront]
  rw [List.foldlM_cons] at hback
  rw [Option.bind_eq_bind, Option.bind_some, List.foldlM_cons, hread.next c hnumber hword]
  exact hback

theorem scan?_eq (h : Scans ⟨.between, []⟩ text read) : scan? text = some read.reverse := by
  obtain ⟨s', htext, hread⟩ := h
  rw [scan?, htext]
  simp [hread.stops]

end Scans

/-- A literal that obeys the grammar of strings is read up to its end. -/
theorem foldlM_step_string (h : StringLiteral.IsSpelled literal) (front : List Char)
    (read : List Token) :
    literal.foldlM step ⟨.string front, read⟩ = some ⟨.string (literal.reverse ++ front), read⟩ := by
  induction h generalizing front with
  | nil => rfl
  | @plain c rest hquote hescape hcode _ ih =>
    have hstep : step ⟨.string front, read⟩ c = some ⟨.string (c :: front), read⟩ := by
      simp only [step, hquote, hescape, Nat.not_lt.2 hcode, if_false]
    rw [List.foldlM_cons, hstep, Option.bind_eq_bind, Option.bind_some, ih, List.reverse_cons,
      List.append_assoc, List.singleton_append]
  | @short c rest hc _ ih =>
    have hletter : c ≠ 'u' := by
      rintro rfl
      exact absurd hc (by decide)
    have hstep : ['\\', c].foldlM step ⟨.string front, read⟩ =
        some ⟨.string (c :: '\\' :: front), read⟩ := by
      simp [step, hletter, hc]
    have hcons : '\\' :: c :: rest = ['\\', c] ++ rest := rfl
    rw [hcons, List.foldlM_append, hstep, Option.bind_eq_bind, Option.bind_some, ih,
      List.reverse_append, List.append_assoc]
    rfl
  | @code a b c d rest hunit _ ih =>
    obtain ⟨ha, hb, hc, hd⟩ := StringLiteral.isSome_hexValue?_of_unit? hunit
    rw [Option.isSome_iff_ne_none] at ha hb hc hd
    have hstep : ['\\', 'u', a, b, c, d].foldlM step ⟨.string front, read⟩ =
        some ⟨.string (d :: c :: b :: a :: 'u' :: '\\' :: front), read⟩ := by
      simp [step, ha, hb, hc, hd]
    have hcons : '\\' :: 'u' :: a :: b :: c :: d :: rest = ['\\', 'u', a, b, c, d] ++ rest := rfl
    rw [hcons, List.foldlM_append, hstep, Option.bind_eq_bind, Option.bind_some, ih,
      List.reverse_append, List.append_assoc]
    rfl

/-- A string between its quotes is read as one token. -/
theorem foldlM_step_between (h : StringLiteral.IsSpelled literal) (read : List Token) :
    (Json.between literal).foldlM step ⟨.between, read⟩ =
      some ⟨.between, .string literal :: read⟩ := by
  have hopen : step ⟨.between, read⟩ '"' = some ⟨.string [], read⟩ := rfl
  have hclose : step ⟨.string literal.reverse, read⟩ '"' =
      some ⟨.between, .string literal :: read⟩ := by simp [step]
  rw [Json.between, List.cons_append, List.foldlM_cons, hopen, Option.bind_eq_bind, Option.bind_some,
    List.foldlM_append, foldlM_step_string h, List.append_nil, Option.bind_eq_bind, Option.bind_some,
    List.foldlM_cons, hclose]
  rfl

/-- A key with its colon, and then what follows. -/
theorem Scans.key {key : List Char} (hkey : StringLiteral.IsSpelled key)
    (h : Scans ⟨.between, .colon :: .string key :: read⟩ text read') :
    Scans ⟨.between, read⟩ (Json.between key ++ ':' :: text) read' := by
  obtain ⟨s', htext, hread⟩ := h
  have hcolon : step ⟨.between, .string key :: read⟩ ':' =
      some ⟨.between, .colon :: .string key :: read⟩ := rfl
  refine ⟨s', ?_, hread⟩
  rw [List.foldlM_append, foldlM_step_between hkey, Option.bind_eq_bind, Option.bind_some,
    List.foldlM_cons, hcolon]
  exact htext

theorem foldlM_step_number (h : ∀ c ∈ text, inNumber c) (front : List Char) (read : List Token) :
    text.foldlM step ⟨.number front, read⟩ = some ⟨.number (text.reverse ++ front), read⟩ := by
  induction text generalizing front with
  | nil => rfl
  | cons c rest ih =>
    obtain ⟨hc, hrest⟩ := List.forall_mem_cons.1 h
    have hstep : step ⟨.number front, read⟩ c = some ⟨.number (c :: front), read⟩ := by simp [step, hc]
    rw [List.foldlM_cons, hstep, Option.bind_eq_bind, Option.bind_some, ih hrest, List.reverse_cons,
      List.append_assoc, List.singleton_append]

theorem scans_number (h : Number.isWellFormed literal) (read : List Token) :
    Scans ⟨.between, read⟩ literal (.number literal :: read) := by
  obtain ⟨first, rest, rfl, hfirst⟩ := Number.begins_of_isWellFormed h
  have hrest := (List.forall_mem_cons.1 (Number.inNumber_of_isWellFormed h)).2
  -- A digit or a minus sign is no blank and no quote.
  have hstep : step ⟨.between, read⟩ first = some ⟨.number [first], read⟩ := by
    have hblank : isBlank first = false := by
      by_contra hblank
      rw [Bool.not_eq_false] at hblank
      have hcases : first = ' ' ∨ first = '\t' ∨ first = '\n' ∨ first = '\r' := by
        simpa [isBlank, or_assoc] using hblank
      rcases hcases with rfl | rfl | rfl | rfl <;> exact absurd hfirst (by decide)
    have hquote : first ≠ '"' := by
      rintro rfl
      exact absurd hfirst (by decide)
    simp [step, start, hblank, hquote, hfirst]
  refine .cons hstep ⟨_, foldlM_step_number hrest [first] read, ?_⟩
  rw [← List.reverse_cons]
  exact hasRead_number read h

end Token

open Token (Scans)

/-- A text between the marks of an array or object. -/
theorem scans_enclosed {before behind : Char} {opening closing : Token} {text : List Char}
    {read inner : List Token}
    (hbefore : Token.step ⟨.between, read⟩ before = some ⟨.between, opening :: read⟩)
    (hbehind : ∀ read, Token.step ⟨.between, read⟩ behind = some ⟨.between, closing :: read⟩)
    (hnumber : Token.inNumber behind = false) (hword : behind.isLower = false)
    (h : Scans ⟨.between, opening :: read⟩ text (inner.reverse ++ opening :: read)) :
    Scans ⟨.between, read⟩ (before :: text ++ [behind])
      ((opening :: inner ++ [closing]).reverse ++ read) := by
  have hread : (opening :: inner ++ [closing]).reverse ++ read =
      closing :: (inner.reverse ++ opening :: read) := by simp
  rw [hread, List.cons_append]
  exact .cons hbefore (h.append hnumber hword (.cons (hbehind _) (.nil _)))

/-- Two pieces with a comma between them. -/
theorem scans_comma {text text' : List Char} {read inner inner' : List Token}
    (h : Scans ⟨.between, read⟩ text (inner.reverse ++ read))
    (h' : Scans ⟨.between, .comma :: (inner.reverse ++ read)⟩ text'
      (inner'.reverse ++ .comma :: (inner.reverse ++ read))) :
    Scans ⟨.between, read⟩ (text ++ ',' :: text') ((inner ++ .comma :: inner').reverse ++ read) := by
  have hread : (inner ++ .comma :: inner').reverse ++ read =
      inner'.reverse ++ .comma :: (inner.reverse ++ read) := by simp
  rw [hread]
  exact h.append (by decide) (by decide) (.cons rfl h')

mutual

/-- **The compact text of a value is cut into its tokens.** -/
theorem scans_compactChars (read : List Token) :
    ∀ j : Json, j.IsSpelled → Scans ⟨.between, read⟩ j.compactChars (j.tokens.reverse ++ read)
  | .null, _ => ⟨_, rfl, Token.hasRead_word ['n', 'u', 'l', 'l'] read rfl⟩
  | .bool true, _ => ⟨_, rfl, Token.hasRead_word ['t', 'r', 'u', 'e'] read rfl⟩
  | .bool false, _ => ⟨_, rfl, Token.hasRead_word ['f', 'a', 'l', 's', 'e'] read rfl⟩
  | .number _, h => Token.scans_number h read
  | .string _, h => ⟨_, Token.foldlM_step_between h read, Token.hasRead_between _⟩
  | .array items, h =>
    scans_enclosed rfl (fun _ => rfl) (by decide) (by decide) (scans_itemsChars _ items h)
  | .object fields, h =>
    scans_enclosed rfl (fun _ => rfl) (by decide) (by decide) (scans_fieldsChars _ fields h)

theorem scans_itemsChars (read : List Token) :
    ∀ items : List Json, AreItemsSpelled items →
      Scans ⟨.between, read⟩ (itemsChars items) ((itemsTokens items).reverse ++ read)
  | [], _ => .nil read
  | [item], h => scans_compactChars read item h.1
  | item :: next :: rest, h =>
    scans_comma (scans_compactChars read item h.1) (scans_itemsChars _ (next :: rest) h.2)

theorem scans_fieldsChars (read : List Token) :
    ∀ fields : List (List Char × Json), AreFieldsSpelled fields →
      Scans ⟨.between, read⟩ (fieldsChars fields) ((fieldsTokens fields).reverse ++ read)
  | [], _ => .nil read
  | [(key, value)], h => by
    rw [fieldsChars, fieldsTokens, List.reverse_cons, List.reverse_cons, List.append_assoc,
      List.append_assoc]
    exact .key h.1 (scans_compactChars _ value h.2.1)
  | (key, value) :: next :: rest, h => by
    have hvalue := scans_compactChars (.colon :: .string key :: read) value h.2.1
    have hrest := scans_fieldsChars (.comma :: (value.tokens.reverse ++ .colon :: .string key :: read))
      (next :: rest) h.2.2
    have hread : (fieldsTokens ((key, value) :: next :: rest)).reverse ++ read =
        (value.tokens ++ .comma :: fieldsTokens (next :: rest)).reverse ++
          .colon :: .string key :: read := by simp [fieldsTokens]
    rw [hread, fieldsChars, List.append_assoc, List.cons_append]
    exact .key h.1 (scans_comma hvalue hrest)

end

/-! ### Parsing -/

namespace Parser

variable {stack : List Frame}

/-- The first item of an array is read as any other. -/
theorem foldlM_firstItem {items : List Json} (h : items ≠ []) (rest : List Token) :
    (itemsTokens items ++ rest).foldlM step ⟨stack, .firstItem⟩ =
      (itemsTokens items ++ rest).foldlM step ⟨.array [] :: stack, .value⟩ := by
  have hitem : ∀ (item : Json) (rest : List Token),
      (item.tokens ++ rest).foldlM step ⟨stack, .firstItem⟩ =
        (item.tokens ++ rest).foldlM step ⟨.array [] :: stack, .value⟩ := by
    intro item rest
    cases item <;> rfl
  match items, h with
  | [item], _ => exact hitem item rest
  | item :: next :: others, _ =>
    rw [itemsTokens, List.append_assoc]
    exact hitem item _

/-- The first key of an object is read as any other. -/
theorem foldlM_firstKey {fields : List (List Char × Json)} (h : fields ≠ []) (rest : List Token) :
    (fieldsTokens fields ++ rest).foldlM step ⟨stack, .firstKey⟩ =
      (fieldsTokens fields ++ rest).foldlM step ⟨stack, .key []⟩ := by
  match fields, h with
  | [_], _ => rfl
  | _ :: _ :: _, _ => rfl

mutual

/-- **A value is built from its tokens**, whatever stands around it. -/
theorem foldlM_tokens (stack : List Frame) :
    ∀ j : Json, j.tokens.foldlM step ⟨stack, .value⟩ = some ⟨stack, .complete j⟩
  | .null | .bool _ | .number _ | .string _ => rfl
  | .array items => by
    have hitems := foldlM_itemsTokens stack [] items
    by_cases hempty : items = []
    · rw [hempty]
      rfl
    · have hrest := hitems hempty
      rw [← foldlM_firstItem hempty] at hrest
      exact hrest
  | .object fields => by
    have hfields := foldlM_fieldsTokens stack [] fields
    by_cases hempty : fields = []
    · rw [hempty]
      rfl
    · have hrest := hfields hempty
      rw [← foldlM_firstKey hempty] at hrest
      exact hrest

/-- Behind the items of an array that have been read, the others and its end are read. -/
theorem foldlM_itemsTokens (stack : List Frame) (read : List Json) :
    ∀ items : List Json, items ≠ [] →
      (itemsTokens items ++ [Token.endArray]).foldlM step ⟨.array read :: stack, .value⟩ =
        some ⟨stack, .complete (.array (read.reverse ++ items))⟩
  | [], h => absurd rfl h
  | [item], _ => by
    rw [itemsTokens, List.foldlM_append, foldlM_tokens _ item]
    simp [step, continue?]
  | item :: next :: rest, _ => by
    have hrest := foldlM_itemsTokens stack (item :: read) (next :: rest) (List.cons_ne_nil _ _)
    rw [List.reverse_cons, List.append_assoc] at hrest
    rw [itemsTokens, List.append_assoc, List.foldlM_append, foldlM_tokens _ item]
    exact hrest

/-- Behind the fields of an object that have been read, the others and its end are read. -/
theorem foldlM_fieldsTokens (stack : List Frame) (read : List (List Char × Json)) :
    ∀ fields : List (List Char × Json), fields ≠ [] →
      (fieldsTokens fields ++ [Token.endObject]).foldlM step ⟨stack, .key read⟩ =
        some ⟨stack, .complete (.object (read.reverse ++ fields))⟩
  | [], h => absurd rfl h
  | [(key, value)], _ => by
    have hfield : (Token.string key :: .colon :: value.tokens).foldlM step ⟨stack, .key read⟩ =
        some ⟨.object read key :: stack, .complete value⟩ := foldlM_tokens _ value
    rw [fieldsTokens, List.foldlM_append, hfield]
    simp [step, continue?]
  | (key, value) :: next :: rest, _ => by
    have hfield : (Token.string key :: .colon :: value.tokens).foldlM step ⟨stack, .key read⟩ =
        some ⟨.object read key :: stack, .complete value⟩ := foldlM_tokens _ value
    have hrest := foldlM_fieldsTokens stack ((key, value) :: read) (next :: rest)
      (List.cons_ne_nil _ _)
    rw [List.reverse_cons, List.append_assoc] at hrest
    rw [fieldsTokens, List.append_assoc, List.foldlM_append, hfield]
    exact hrest

end

end Parser

/-- **A value is read back from its compact text.** -/
theorem parse?_compact {j : Json} (h : j.IsSpelled) : parse? j.compact = some j := by
  have hscan := (scans_compactChars [] j h).scan?_eq
  rw [parse?, compact, String.toList_ofList, hscan, List.append_nil, List.reverse_reverse]
  simp [ofTokens?, Parser.foldlM_tokens, Parser.finish]

end MeterBridge.Json
