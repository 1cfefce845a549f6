import MeterBridge.Json.Parser

/-!
# Typed readings of JSON values

Readers from JSON values to strings, integers of fixed width, names and records. They are
strict: an integer is written in plain digits and fits its width, and a known field of a record
stands in it at most once. They are lenient where a newer writer may know more: fields of unknown
name are passed over, whatever they hold.
-/

namespace MeterBridge.Json

/-! ### Scalars -/

/-- The text that a string literal spells. -/
def literalText? (literal : List Char) : Option String :=
  (StringLiteral.decode literal).map String.ofList

/-- The text of a string. -/
def text? : Json → Option String
  | .string literal => literalText? literal
  | _ => none

/-- The integer of a number in plain digits, if it is at most `greatest`. -/
def natural? (greatest : Nat) : Json → Option Nat
  | .number literal => (Number.natural? literal).filter (· ≤ greatest)
  | _ => none

/-- An integer of eight bits. -/
def uint8? (j : Json) : Option UInt8 := (natural? (UInt8.size - 1) j).map UInt8.ofNat

/-- An integer of 32 bits. -/
def uint32? (j : Json) : Option UInt32 := (natural? (UInt32.size - 1) j).map UInt32.ofNat

/-- An integer of 64 bits. -/
def uint64? (j : Json) : Option UInt64 := (natural? (UInt64.size - 1) j).map UInt64.ofNat

/-- A value that may be `null`. -/
def nullable? {α : Type} (read : Json → Option α) : Json → Option (Option α)
  | .null => some none
  | j => (read j).map some

/-- The name that a value is: a string, or an object whose one field has that name and the value
`null`. -/
def name? : Json → Option String
  | .string literal => literalText? literal
  | .object [(key, .null)] => literalText? key
  | _ => none

/-- The items of an array, each read on its own. -/
def items? {α : Type} (read : Json → Option α) : Json → Option (List α)
  | .array items => items.mapM read
  | _ => none

/-! ### Records -/

/-- The names under which one field of a record is known. -/
abbrev Spellings := List String

/-- Enters a field of an object into the slots of a record: a known field fills its empty slot,
and an unknown one is passed over. -/
def enter (record : List Spellings) (slots : List (Option Json)) (field : List Char × Json) :
    Option (List (Option Json)) := do
  let name ← literalText? field.1
  match record.findIdx? (·.contains name) with
  | none => return slots
  | some i => if slots[i]?.join.isSome then none else return slots.set i (some field.2)

/-- The fields of a record, in the order of its names. The record is written as an object, or as
an array of its first fields in order, at least `least` of them. -/
def record? (record : List Spellings) (least : Nat) : Json → Option (List (Option Json))
  | .object fields => fields.foldlM (enter record) (record.map fun _ => none)
  | .array items =>
    if least ≤ items.length ∧ items.length ≤ record.length then
      some (items.map some ++ List.replicate (record.length - items.length) none)
    else none
  | _ => none

/-- Reads a field that may be absent. -/
def optional? {α : Type} (read : Json → Option α) (default : α) : Option Json → Option α
  | none => some default
  | some j => read j

/-! ### Values kept for a later reading -/

/-- The deepest nesting of arrays and objects in a value that is read, not skipped. -/
def deepest : Nat := 127

mutual

/-- The value can be kept until it is known how to read it: its strings name characters, its
numbers are in the range of doubles, and it nests at most `room` arrays and objects. -/
def isKeepable (room : Nat) : Json → Bool
  | .null | .bool _ => true
  | .number literal => Number.isFinite literal
  | .string literal => (StringLiteral.decode literal).isSome
  | .array items => 0 < room && areItemsKeepable (room - 1) items
  | .object fields => 0 < room && areFieldsKeepable (room - 1) fields

/-- All items can be kept. -/
def areItemsKeepable (room : Nat) : List Json → Bool
  | [] => true
  | item :: rest => isKeepable room item && areItemsKeepable room rest

/-- All keys and values of the fields can be kept. -/
def areFieldsKeepable (room : Nat) : List (List Char × Json) → Bool
  | [] => true
  | (key, value) :: rest =>
    (StringLiteral.decode key).isSome && isKeepable room value && areFieldsKeepable room rest

end

end MeterBridge.Json
