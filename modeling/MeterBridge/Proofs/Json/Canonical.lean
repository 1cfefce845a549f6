import MeterBridge.Proofs.Json.RoundTrip

/-!
# Only the tokens of a value spell it

The parser has at each moment read the tokens of what stands on its stack and of what it is about
(`Parser.State.read`), and a token that it reads is one more (`Parser.read_step`). When it has a value, then
it has read the tokens of this value and nothing else. So a text is read as a value just if its tokens are
those of the value (`parse?_eq_some_iff`).
-/

namespace MeterBridge.Json

/-! ### The tokens of a value that is being read -/

/-- Items with a comma behind each. -/
def commaItems (items : List Json) : List Token := items.flatMap fun item => item.tokens ++ [.comma]

/-- Fields with a comma behind each. -/
def commaFields (fields : List (List Char × Json)) : List Token :=
  fields.flatMap fun (key, value) => .string key :: .colon :: value.tokens ++ [.comma]

theorem itemsTokens_concat (items : List Json) (last : Json) :
    itemsTokens (items ++ [last]) = commaItems items ++ last.tokens := by
  induction items with
  | nil => rfl
  | cons item rest ih =>
    obtain ⟨next, others, hnext⟩ := List.exists_cons_of_ne_nil (List.append_ne_nil_of_right_ne_nil rest
      (List.cons_ne_nil last []))
    rw [List.cons_append, hnext, itemsTokens, ← hnext, ih]
    simp [commaItems]

theorem fieldsTokens_concat (fields : List (List Char × Json)) (key : List Char) (value : Json) :
    fieldsTokens (fields ++ [(key, value)]) =
      commaFields fields ++ .string key :: .colon :: value.tokens := by
  induction fields with
  | nil => rfl
  | cons field rest ih =>
    obtain ⟨next, others, hnext⟩ := List.exists_cons_of_ne_nil (List.append_ne_nil_of_right_ne_nil rest
      (List.cons_ne_nil (key, value) []))
    rw [List.cons_append, hnext, fieldsTokens, ← hnext, ih]
    simp [commaFields]

namespace Parser

/-- The tokens that have been read of an array or object around the position. -/
def Frame.read : Frame → List Token
  | .array items => .beginArray :: commaItems items.reverse
  | .object fields key => .beginObject :: commaFields fields.reverse ++ [.string key, .colon]

/-- The tokens that have been read of what the position is about. -/
def Position.read : Position → List Token
  | .value => []
  | .firstItem => [.beginArray]
  | .firstKey => [.beginObject]
  | .key fields => .beginObject :: commaFields fields.reverse
  | .colon fields name => .beginObject :: commaFields fields.reverse ++ [.string name]
  | .complete j => j.tokens

/-- The tokens that have been read. -/
def State.read (s : State) : List Token := s.stack.reverse.flatMap Frame.read ++ s.position.read

variable {s s' : State} {stack : List Frame} {token : Token} {ts : List Token} {value : Json}

theorem read_begin? (h : begin? stack token = some s') :
    s'.read = stack.reverse.flatMap Frame.read ++ [token] := by
  cases token <;> cases h <;> rfl

theorem read_continue? (h : continue? value stack token = some s') :
    s'.read = stack.reverse.flatMap Frame.read ++ value.tokens ++ [token] := by
  unfold continue? at h
  split at h
  · cases h
    simp [State.read, Position.read, Frame.read, commaItems]
  · cases h
    simp [State.read, Position.read, Frame.read, tokens, itemsTokens_concat]
  · cases h
    simp [State.read, Position.read, Frame.read, commaFields]
  · cases h
    simp [State.read, Position.read, Frame.read, tokens, fieldsTokens_concat]
  · cases h

/-- A token that is read is one more. -/
theorem read_step (h : step s token = some s') : s'.read = s.read ++ [token] := by
  unfold step at h
  split at h
  · next hposition =>
    rw [read_begin? h]
    simp [State.read, hposition, Position.read]
  · next hposition =>
    cases h
    simp [State.read, hposition, Position.read, tokens, itemsTokens]
  · next hposition _ =>
    rw [read_begin? h]
    simp [State.read, hposition, Position.read, Frame.read, commaItems]
  · next hposition =>
    cases h
    simp [State.read, hposition, Position.read, tokens, fieldsTokens]
  · next hposition =>
    cases h
    simp [State.read, hposition, Position.read, commaFields]
  · next hposition =>
    cases h
    simp [State.read, hposition, Position.read]
  · next hposition =>
    cases h
    simp [State.read, hposition, Position.read, Frame.read]
  · next hposition =>
    rw [read_continue? h]
    simp [State.read, hposition, Position.read]
  · cases h

theorem read_foldlM (h : ts.foldlM step s = some s') : s'.read = s.read ++ ts := by
  induction ts generalizing s with
  | nil =>
    cases h
    exact (List.append_nil _).symm
  | cons token rest ih =>
    rw [List.foldlM_cons, Option.bind_eq_bind, Option.bind_eq_some_iff] at h
    obtain ⟨next, hnext, hrest⟩ := h
    rw [ih hrest, read_step hnext, List.append_assoc, List.singleton_append]

theorem finish_eq_some_iff : finish s = some value ↔ s = ⟨[], .complete value⟩ := by
  constructor
  · intro h
    unfold finish at h
    split at h
    · next value' hstack hposition =>
      cases h
      obtain ⟨stack, position⟩ := s
      cases hstack
      cases hposition
      rfl
    · cases h
  · rintro rfl
    rfl

end Parser

variable {ts us : List Token} {j : Json}

/-- **Only the tokens of a value spell it.** -/
theorem ofTokens?_eq_some_iff : ofTokens? ts = some j ↔ ts = j.tokens := by
  constructor
  · intro h
    rw [ofTokens?, Option.bind_eq_bind, Option.bind_eq_some_iff] at h
    obtain ⟨s, hread, hfinish⟩ := h
    have htokens := Parser.read_foldlM hread
    rw [Parser.finish_eq_some_iff.1 hfinish] at htokens
    exact htokens.symm
  · rintro rfl
    rw [ofTokens?, Parser.foldlM_tokens]
    rfl

theorem tokens_inj {j j' : Json} : j.tokens = j'.tokens ↔ j = j' := by
  constructor
  · intro h
    have hparse := ofTokens?_eq_some_iff.2 h
    rw [ofTokens?_eq_some_iff.2 rfl] at hparse
    exact Option.some.inj hparse
  · rintro rfl
    rfl

/-- Every value has a token. -/
theorem exists_tokens_eq_cons (j : Json) : ∃ token rest, j.tokens = token :: rest := by
  cases j <;> exact ⟨_, _, rfl⟩

/-- The tokens of a value with others behind them spell no value. -/
theorem ofTokens?_append (j : Json) (h : us ≠ []) : ofTokens? (j.tokens ++ us) = none := by
  obtain ⟨token, rest, rfl⟩ := List.exists_cons_of_ne_nil h
  simp [ofTokens?, List.foldlM_append, Parser.foldlM_tokens, Parser.step, Parser.continue?]

/-- **Only a text with the tokens of a value is read as it.** -/
theorem parse?_eq_some_iff {text : String} :
    parse? text = some j ↔ Token.scan? text.toList = some j.tokens := by
  rw [parse?, Option.bind_eq_bind, Option.bind_eq_some_iff]
  constructor
  · rintro ⟨ts, hscan, hparse⟩
    rw [hscan, ofTokens?_eq_some_iff.1 hparse]
  · intro hscan
    exact ⟨_, hscan, ofTokens?_eq_some_iff.2 rfl⟩

end MeterBridge.Json
