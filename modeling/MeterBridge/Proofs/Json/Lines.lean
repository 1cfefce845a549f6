import MeterBridge.Proofs.Json.Canonical
import MeterBridge.Text.Blank
import MeterBridge.Text.Lines
import Mathlib.Data.List.Forall2

/-!
# Lines of JSON

No token goes on behind a line break, and what the scanner does does not depend on the tokens that it has cut.
So the tokens of a text are those of its lines, one line after the other (`Token.scan?_lines`), and several
lines with a value each are no value (`exists_line_of_parse?`). The first token of a text is a brace only if
the text begins with one (`head?_trimLeft_of_parse?`).
-/

namespace MeterBridge

/-- The lines that are not blank. -/
def Text.filledLines (text : List Char) : List (List Char) :=
  (lines text).filter fun line => !line.all isBlank

namespace Json

namespace Token

/-! ### The tokens of lines -/

/-- The scanner with other tokens before its own. -/
def Scanner.behind (s : Scanner) (earlier : List Token) : Scanner := { s with tokens := s.tokens ++ earlier }

variable {s : Scanner} {c : Char} {text line rest : List Char} {earlier : List Token}

theorem start_append (read earlier : List Token) (c : Char) :
    start (read ++ earlier) c = (start read c).map (·.behind earlier) := by
  unfold start
  split
  · rfl
  split
  · rfl
  split
  · rfl
  split
  · rfl
  · cases ofMark? c <;> rfl

/-- What the scanner does next does not depend on the tokens that it has cut. -/
theorem step_behind (s : Scanner) (earlier : List Token) (c : Char) :
    step (s.behind earlier) c = (step s c).map (·.behind earlier) := by
  obtain ⟨mode, read⟩ := s
  cases mode with
  | between => exact start_append read earlier c
  | string front =>
    simp only [Scanner.behind, step]
    split
    · rfl
    split
    · rfl
    split <;> rfl
  | escape front =>
    simp only [Scanner.behind, step]
    split
    · rfl
    split <;> rfl
  | code left front =>
    simp only [Scanner.behind, step]
    split
    · rfl
    split <;> rfl
  | number front =>
    simp only [Scanner.behind, step]
    split
    · rfl
    · cases ofNumber? front.reverse with
      | none => rfl
      | some token => exact start_append (token :: read) earlier c
  | word front =>
    simp only [Scanner.behind, step]
    split
    · rfl
    · cases ofWord? front.reverse with
      | none => rfl
      | some token => exact start_append (token :: read) earlier c

theorem foldlM_behind (text : List Char) (s : Scanner) (earlier : List Token) :
    text.foldlM step (s.behind earlier) = (text.foldlM step s).map (·.behind earlier) := by
  induction text generalizing s with
  | nil => rfl
  | cons c text ih =>
    rw [List.foldlM_cons, List.foldlM_cons, step_behind]
    cases step s c with
    | none => rfl
    | some s' => exact ih s'

theorem finish_behind (s : Scanner) (earlier : List Token) :
    finish (s.behind earlier) = (finish s).map (· ++ earlier) := by
  obtain ⟨mode, read⟩ := s
  cases mode with
  | between => rfl
  | string front | escape front | code left front => rfl
  | number front => simp only [Scanner.behind, finish]; cases ofNumber? front.reverse <;> rfl
  | word front => simp only [Scanner.behind, finish]; cases ofWord? front.reverse <;> rfl

/-- A line feed or a carriage return ends what the end of the text would end, and nothing else. -/
theorem step_of_break (hc : c = '\n' ∨ c = '\r') (s : Scanner) :
    step s c = (finish s).map (⟨.between, ·⟩) := by
  have hchar : isBlank c = true ∧ c ≠ '"' ∧ c ≠ '\\' ∧ c.toNat < 0x20 ∧ c ≠ 'u' ∧
      (StringLiteral.shortEscape? c).isSome = false ∧ (Digit.hexValue? c).isNone = true ∧
      inNumber c = false ∧ c.isLower = false := by
    rcases hc with rfl | rfl <;> decide
  obtain ⟨hblank, hquote, hescape, hcontrol, hletter, hshort, hhex, hnumber, hlower⟩ := hchar
  have hstart : ∀ read, start read c = some ⟨.between, read⟩ := by
    intro read
    rw [start, if_pos hblank]
  obtain ⟨mode, read⟩ := s
  cases mode with
  | between => exact hstart read
  | string front => simp [step, finish, hquote, hescape, hcontrol]
  | escape front => simp [step, finish, hletter, hshort]
  | code left front => simp [step, finish, hhex]
  | number front => cases hnumber' : ofNumber? front.reverse <;> simp [step, finish, hnumber, hnumber', hstart]
  | word front => cases hword : ofWord? front.reverse <;> simp [step, finish, hlower, hword, hstart]

/-- The tokens in front of a line break, and then those behind it. -/
theorem scan?_append_break (hc : c = '\n' ∨ c = '\r') (line rest : List Char) :
    scan? (line ++ c :: rest) = (scan? line).bind fun ts => (scan? rest).map (ts ++ ·) := by
  simp only [scan?, List.foldlM_append, List.foldlM_cons, Option.bind_eq_bind, Option.pure_def]
  cases hline : line.foldlM step ⟨.between, []⟩ with
  | none => rfl
  | some s =>
    simp only [Option.bind_some, step_of_break hc]
    cases finish s with
    | none => rfl
    | some read =>
      have hbehind : (⟨.between, read⟩ : Scanner) = Scanner.behind ⟨.between, []⟩ read := rfl
      simp only [Option.map_some, Option.bind_some, hbehind, foldlM_behind]
      cases rest.foldlM step ⟨.between, []⟩ with
      | none => rfl
      | some s' =>
        simp only [Option.map_some, Option.bind_some, finish_behind]
        cases finish s' with
        | none => rfl
        | some read' => simp

theorem scan?_withoutReturn (read : List Char) :
    scan? (Text.withoutReturn '\r' read).reverse = scan? read.reverse := by
  cases read with
  | nil => rfl
  | cons d front =>
    rw [Text.withoutReturn]
    split
    · next hd =>
      have hnothing : scan? [] = some [] := rfl
      rw [List.reverse_cons, scan?_append_break (.inr hd), hnothing]
      cases scan? front.reverse <;> simp
    · rfl

theorem scan?_linesFrom (read text : List Char) :
    scan? (read.reverse ++ text) =
      ((Text.linesFrom '\n' '\r' read text).mapM scan?).map List.flatten := by
  induction text generalizing read with
  | nil =>
    rw [Text.linesFrom, List.append_nil]
    split
    · next hread =>
      rw [List.isEmpty_iff.1 hread]
      rfl
    · cases hscan : scan? read.reverse <;> simp [hscan]
  | cons c text ih =>
    rw [Text.linesFrom]
    split
    · next hc =>
      have hrest := ih []
      rw [List.reverse_nil, List.nil_append] at hrest
      rw [scan?_append_break (.inl hc), hrest, List.mapM_cons, scan?_withoutReturn]
      cases scan? read.reverse with
      | none => rfl
      | some ts => cases (Text.linesFrom '\n' '\r' [] text).mapM scan? <;> simp
    · rw [← ih, List.reverse_cons, List.append_assoc, List.singleton_append]

/-- **The tokens of a text are those of its lines**, one line after the other. -/
theorem scan?_lines (text : List Char) :
    scan? text = ((Text.lines text).mapM scan?).map List.flatten := scan?_linesFrom [] text

/-- Some blanks of texts are no blanks of JSON. No token begins with one of them. -/
theorem start_of_isBlank (hc : Text.isBlank c = true) (read : List Token) :
    start read c = if isBlank c then some ⟨.between, read⟩ else none := by
  have halphanum : (c.isUpper || c.isLower || c.isDigit) = false := Text.not_isAlphanum_of_isBlank hc
  simp only [Bool.or_eq_false_iff] at halphanum
  obtain ⟨⟨-, hlower⟩, hdigit⟩ := halphanum
  have hne : ∀ d : Char, Text.isBlank d = false → c ≠ d := by
    rintro d hd rfl
    exact absurd (hc.symm.trans hd) (by decide)
  have hmark : ofMark? c = none := by
    simp [ofMark?, hne '[' (by decide), hne ']' (by decide), hne '\x7b' (by decide),
      hne '\x7d' (by decide), hne ',' (by decide), hne ':' (by decide)]
  simp [start, hne '"' (by decide), hne '-' (by decide), hdigit, hlower, hmark]

/-- A blank line has no tokens, if it can be cut into tokens at all. -/
theorem eq_nil_of_scan? (h : ∀ c ∈ text, Text.isBlank c = true) {ts : List Token}
    (hscan : scan? text = some ts) : ts = [] := by
  induction text with
  | nil => exact (Option.some.inj hscan).symm
  | cons c text ih =>
    obtain ⟨hc, htext⟩ := List.forall_mem_cons.1 h
    have hstep : step ⟨.between, []⟩ c = if isBlank c then some ⟨.between, []⟩ else none :=
      start_of_isBlank hc []
    rw [scan?, List.foldlM_cons, hstep] at hscan
    by_cases hblank : isBlank c = true
    · rw [if_pos hblank] at hscan
      exact ih htext hscan
    · rw [if_neg hblank] at hscan
      cases hscan

/-! ### The first token -/

/-- No brace is the first of the tokens, which are given latest first. -/
def NoBraceFirst (read : List Token) : Prop := read.getLast? ≠ some .beginObject

/-- The first token has begun, and it is no brace. -/
structure BeginsOtherwise (s : Scanner) : Prop where
  /-- If the first token is complete, then it is no brace. -/
  noBrace : NoBraceFirst s.tokens
  /-- If it is not, then the scanner stands inside it. -/
  inside : s.tokens = [] → s.mode ≠ .between

theorem NoBraceFirst.cons {read : List Token} {token : Token} (h : NoBraceFirst read)
    (htoken : token ≠ .beginObject) : NoBraceFirst (token :: read) := by
  cases read with
  | nil => simpa [NoBraceFirst] using htoken
  | cons next rest => rwa [NoBraceFirst, List.getLast?_cons_cons]

theorem NoBraceFirst.start {read : List Token} (h : NoBraceFirst read) (hread : read ≠ [])
    (hs : start read c = some s) : BeginsOtherwise s := by
  have htokens : s.tokens = read ∨ ∃ token, s.tokens = token :: read := by
    unfold Token.start at hs
    split at hs
    · cases hs
      exact .inl rfl
    split at hs
    · cases hs
      exact .inl rfl
    split at hs
    · cases hs
      exact .inl rfl
    split at hs
    · cases hs
      exact .inl rfl
    · rw [Option.bind_eq_bind, Option.bind_eq_some_iff] at hs
      obtain ⟨token, -, hs⟩ := hs
      cases hs
      exact .inr ⟨token, rfl⟩
  obtain ⟨next, rest, rfl⟩ := List.exists_cons_of_ne_nil hread
  rcases htokens with htokens | ⟨token, htokens⟩
  · exact ⟨htokens ▸ h, fun hnil => absurd (htokens.symm.trans hnil) (List.cons_ne_nil _ _)⟩
  · refine ⟨?_, fun hnil => absurd (htokens.symm.trans hnil) (List.cons_ne_nil _ _)⟩
    rwa [htokens, NoBraceFirst, List.getLast?_cons_cons]

theorem ne_beginObject_of_ofNumber? {literal : List Char} {token : Token}
    (h : ofNumber? literal = some token) : token ≠ .beginObject := by
  unfold ofNumber? at h
  split at h
  · cases h
    exact Token.noConfusion
  · cases h

theorem ne_beginObject_of_ofWord? {word : List Char} {token : Token} (h : ofWord? word = some token) :
    token ≠ .beginObject := by
  unfold ofWord? at h
  split at h
  · cases h
    exact Token.noConfusion
  split at h
  · cases h
    exact Token.noConfusion
  split at h
  · cases h
    exact Token.noConfusion
  · cases h

/-- A scanner that has begun otherwise goes on otherwise. -/
theorem BeginsOtherwise.step {s' : Scanner} (h : BeginsOtherwise s) (hs : step s c = some s') :
    BeginsOtherwise s' := by
  obtain ⟨mode, read⟩ := s
  obtain ⟨hbrace, hinside⟩ := h
  cases mode with
  | between => exact hbrace.start (fun hnil => hinside hnil rfl) hs
  | string front =>
    simp only [Token.step] at hs
    split at hs
    · cases hs
      exact ⟨hbrace.cons Token.noConfusion, fun hnil => absurd hnil (List.cons_ne_nil _ _)⟩
    split at hs
    · cases hs
      exact ⟨hbrace, fun _ => Mode.noConfusion⟩
    split at hs
    · cases hs
    · cases hs
      exact ⟨hbrace, fun _ => Mode.noConfusion⟩
  | escape front =>
    simp only [Token.step] at hs
    split at hs
    · cases hs
      exact ⟨hbrace, fun _ => Mode.noConfusion⟩
    split at hs
    · cases hs
      exact ⟨hbrace, fun _ => Mode.noConfusion⟩
    · cases hs
  | code left front =>
    simp only [Token.step] at hs
    split at hs
    · cases hs
    split at hs
    · cases hs
      exact ⟨hbrace, fun _ => Mode.noConfusion⟩
    · cases hs
      exact ⟨hbrace, fun _ => Mode.noConfusion⟩
  | number front =>
    simp only [Token.step] at hs
    split at hs
    · cases hs
      exact ⟨hbrace, fun _ => Mode.noConfusion⟩
    · rw [Option.bind_eq_bind, Option.bind_eq_some_iff] at hs
      obtain ⟨token, htoken, hs⟩ := hs
      exact (hbrace.cons (ne_beginObject_of_ofNumber? htoken)).start (List.cons_ne_nil _ _) hs
  | word front =>
    simp only [Token.step] at hs
    split at hs
    · cases hs
      exact ⟨hbrace, fun _ => Mode.noConfusion⟩
    · rw [Option.bind_eq_bind, Option.bind_eq_some_iff] at hs
      obtain ⟨token, htoken, hs⟩ := hs
      exact (hbrace.cons (ne_beginObject_of_ofWord? htoken)).start (List.cons_ne_nil _ _) hs

theorem BeginsOtherwise.foldlM {s' : Scanner} (h : BeginsOtherwise s)
    (hs : text.foldlM Token.step s = some s') : BeginsOtherwise s' := by
  induction text generalizing s with
  | nil =>
    cases hs
    exact h
  | cons c text ih =>
    rw [List.foldlM_cons, Option.bind_eq_bind, Option.bind_eq_some_iff] at hs
    obtain ⟨next, hnext, hs⟩ := hs
    exact ih (h.step hnext) hs

theorem BeginsOtherwise.finish {read : List Token} (h : BeginsOtherwise s)
    (hs : Token.finish s = some read) : NoBraceFirst read := by
  obtain ⟨mode, earlier⟩ := s
  cases mode with
  | between =>
    cases hs
    exact h.noBrace
  | string front | escape front | code left front => cases hs
  | number front =>
    simp only [Token.finish, Option.bind_eq_bind, Option.bind_eq_some_iff] at hs
    obtain ⟨token, htoken, hs⟩ := hs
    cases hs
    exact h.noBrace.cons (ne_beginObject_of_ofNumber? htoken)
  | word front =>
    simp only [Token.finish, Option.bind_eq_bind, Option.bind_eq_some_iff] at hs
    obtain ⟨token, htoken, hs⟩ := hs
    cases hs
    exact h.noBrace.cons (ne_beginObject_of_ofWord? htoken)

/-- A character that is no blank and no brace begins otherwise. -/
theorem beginsOtherwise_of_start (hblank : isBlank c = false) (hbrace : c ≠ '\x7b')
    (hs : start [] c = some s) : BeginsOtherwise s := by
  have hnothing : NoBraceFirst [] := by simp [NoBraceFirst]
  rw [start, hblank, if_neg Bool.false_ne_true] at hs
  split at hs
  · cases hs
    exact ⟨hnothing, fun _ => Mode.noConfusion⟩
  split at hs
  · cases hs
    exact ⟨hnothing, fun _ => Mode.noConfusion⟩
  split at hs
  · cases hs
    exact ⟨hnothing, fun _ => Mode.noConfusion⟩
  · rw [Option.bind_eq_bind, Option.bind_eq_some_iff] at hs
    obtain ⟨token, htoken, hs⟩ := hs
    cases hs
    have htoken : token ≠ .beginObject := by
      rintro rfl
      unfold ofMark? at htoken
      grind
    exact ⟨hnothing.cons htoken, fun hnil => absurd hnil (List.cons_ne_nil _ _)⟩

theorem isBlank_of_isBlank (h : isBlank c = true) : Text.isBlank c = true := by
  simp only [isBlank, Bool.or_eq_true, beq_iff_eq, or_assoc] at h
  rcases h with rfl | rfl | rfl | rfl <;> decide

/-- A text whose first token is a brace begins with one, behind blanks. -/
theorem head?_trimLeft_of_scan? {ts : List Token} (h : scan? text = some (.beginObject :: ts)) :
    (Text.trimLeft text).head? = some '\x7b' := by
  induction text with
  | nil => cases h
  | cons c text ih =>
    by_cases hblank : isBlank c = true
    · have hstep : step ⟨.between, []⟩ c = some ⟨.between, []⟩ := if_pos hblank
      rw [scan?, List.foldlM_cons, hstep] at h
      rw [Text.trimLeft, List.dropWhile_cons_of_pos (isBlank_of_isBlank hblank)]
      exact ih h
    by_cases hbrace : c = '\x7b'
    · subst hbrace
      rfl
    · rw [scan?, List.foldlM_cons, Option.bind_eq_bind, Option.bind_eq_bind, Option.bind_eq_some_iff] at h
      obtain ⟨s, hs, h⟩ := h
      obtain ⟨first, hfirst, hs⟩ := Option.bind_eq_some_iff.1 hs
      rw [Option.bind_eq_bind, Option.bind_eq_some_iff] at h
      obtain ⟨read, hread, h⟩ := h
      have hbegins := beginsOtherwise_of_start (Bool.not_eq_true _ ▸ hblank) hbrace hfirst
      have hlast := (hbegins.foldlM hs).finish hread
      rw [NoBraceFirst, List.getLast?_eq_head?_reverse, Option.some.inj h] at hlast
      exact absurd rfl hlast

end Token

/-! ### The values of lines -/

variable {text : String} {j : Json}

/-- The text of an object begins with a brace. -/
theorem head?_trimLeft_of_parse? {fields : List (List Char × Json)}
    (h : parse? text = some (.object fields)) : (Text.trimLeft text.toList).head? = some '\x7b' :=
  Token.head?_trimLeft_of_scan? (parse?_eq_some_iff.1 h)

/-- The line has this value. -/
def IsLineOf (line : List Char) (j : Json) : Prop := parse? (String.ofList line) = some j

theorem IsLineOf.scan?_eq {line : List Char} (h : IsLineOf line j) : Token.scan? line = some j.tokens := by
  have hscan := parse?_eq_some_iff.1 h
  rwa [String.toList_ofList] at hscan

/-- Only the filled lines have tokens, and these are the tokens of their values. -/
theorem exists_values_of_mapM {ls : List (List Char)} {tss : List (List Token)}
    (h : ls.mapM Token.scan? = some tss)
    (hlines : ∀ line ∈ ls.filter fun line => !line.all Text.isBlank, ∃ j, IsLineOf line j) :
    ∃ js, List.Forall₂ IsLineOf (ls.filter fun line => !line.all Text.isBlank) js ∧
      tss.flatten = js.flatMap tokens := by
  induction ls generalizing tss with
  | nil =>
    cases h
    exact ⟨[], .nil, rfl⟩
  | cons line ls ih =>
    simp only [List.mapM_cons, Option.bind_eq_bind, Option.bind_eq_some_iff] at h
    obtain ⟨ts, hline, tss, hrest, h⟩ := h
    cases h
    rw [List.filter_cons] at hlines ⊢
    by_cases hblank : line.all Text.isBlank = true
    · rw [hblank, Bool.not_true, if_neg Bool.false_ne_true] at hlines ⊢
      obtain ⟨js, hjs, htokens⟩ := ih hrest hlines
      refine ⟨js, hjs, ?_⟩
      rw [List.flatten_cons, Token.eq_nil_of_scan? (List.all_eq_true.1 hblank) hline, htokens,
        List.nil_append]
    · rw [Bool.not_eq_true] at hblank
      rw [hblank, Bool.not_false, if_pos rfl] at hlines ⊢
      obtain ⟨⟨j, hj⟩, hlines⟩ := List.forall_mem_cons.1 hlines
      obtain ⟨js, hjs, htokens⟩ := ih hrest hlines
      refine ⟨j :: js, .cons hj hjs, ?_⟩
      rw [List.flatten_cons, List.flatMap_cons, htokens, Option.some.inj (hline.symm.trans hj.scan?_eq)]

/-- **Lines with a value each are a value only if there is one of them.** -/
theorem exists_line_of_parse? (h : parse? text = some j)
    (hlines : ∀ line ∈ Text.filledLines text.toList, ∃ j, IsLineOf line j) :
    ∃ line, Text.filledLines text.toList = [line] ∧ IsLineOf line j := by
  have hscan := parse?_eq_some_iff.1 h
  rw [Token.scan?_lines, Option.map_eq_some_iff] at hscan
  obtain ⟨tss, hmapM, hflatten⟩ := hscan
  obtain ⟨js, hjs, htokens⟩ := exists_values_of_mapM hmapM hlines
  rw [hflatten] at htokens
  change List.Forall₂ IsLineOf (Text.filledLines text.toList) js at hjs
  cases js with
  | nil =>
    obtain ⟨token, rest, hcons⟩ := exists_tokens_eq_cons j
    rw [hcons] at htokens
    cases htokens
  | cons first others =>
    cases others with
    | nil =>
      rw [List.flatMap_singleton, tokens_inj] at htokens
      obtain ⟨line, _, hline, hnil, hfilled⟩ := List.forall₂_cons_right_iff.1 hjs
      rw [List.forall₂_nil_right_iff.1 hnil] at hfilled
      exact ⟨line, hfilled, htokens ▸ hline⟩
    | cons next others =>
      -- Behind the first value there must be nothing, but the next one begins.
      obtain ⟨token, rest, hcons⟩ := exists_tokens_eq_cons next
      have hmore : (next :: others).flatMap tokens ≠ [] := by
        rw [List.flatMap_cons, hcons]
        exact List.cons_ne_nil _ _
      have hnone := ofTokens?_append first hmore
      rw [← List.flatMap_cons, ← htokens, ofTokens?_eq_some_iff.2 rfl] at hnone
      cases hnone

end Json

end MeterBridge
