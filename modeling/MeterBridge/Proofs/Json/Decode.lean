import MeterBridge.Json.Decode
import MeterBridge.Proofs.Json.RoundTrip

/-!
# Typed values read back

Strings, integers and lists are read back from the JSON they are written as. A field of a record whose name
the record does not know is passed over, whatever it holds.
-/

namespace MeterBridge.Json

/-! ### Scalars -/

theorem literalText?_encode (text : String) :
    literalText? (StringLiteral.encode text.toList) = some text := by
  rw [literalText?, StringLiteral.decode_encode, Option.map_some, String.ofList_toList]

/-- A plain text is the literal of itself. -/
theorem literalText?_of_isPlain {text : List Char} (h : StringLiteral.IsPlain text) :
    literalText? text = some (String.ofList text) := by
  rw [literalText?, h.decode_eq, Option.map_some]

theorem isSpelled_ofNat (n : Nat) : (ofNat n).IsSpelled :=
  Number.isWellFormed_of_isWhole (Number.isWhole_toDigits n)

theorem natural?_ofNat {n greatest : Nat} (h : n ≤ greatest) : natural? greatest (ofNat n) = some n := by
  rw [ofNat, natural?, Number.natural?_toDigits, Option.filter_some, if_pos (by simpa using h)]

theorem uint8?_ofNat (n : UInt8) : uint8? (ofNat n.toNat) = some n := by
  rw [uint8?, natural?_ofNat (Nat.le_sub_one_of_lt n.toNat_lt), Option.map_some, UInt8.ofNat_toNat]

theorem uint32?_ofNat (n : UInt32) : uint32? (ofNat n.toNat) = some n := by
  rw [uint32?, natural?_ofNat (Nat.le_sub_one_of_lt n.toNat_lt), Option.map_some, UInt32.ofNat_toNat]

theorem uint64?_ofNat (n : UInt64) : uint64? (ofNat n.toNat) = some n := by
  rw [uint64?, natural?_ofNat (Nat.le_sub_one_of_lt n.toNat_lt), Option.map_some, UInt64.ofNat_toNat]

/-! ### Lists -/

/-- Items that are read back one by one are read back together. -/
theorem mapM_map {α β : Type} {write : α → β} {read : β → Option α} (h : ∀ a, read (write a) = some a)
    (as : List α) : (as.map write).mapM read = some as := by
  induction as with
  | nil => rfl
  | cons a rest ih =>
    rw [List.map_cons, List.mapM_cons, h, Option.bind_eq_bind, Option.bind_some, ih]
    rfl

/-- Items are read together if each of them can be read. -/
theorem mapM_eq_some_filterMap {α β : Type} {read : β → Option α} {bs : List β}
    (h : ∀ b ∈ bs, (read b).isSome) : bs.mapM read = some (bs.filterMap read) := by
  induction bs with
  | nil => rfl
  | cons b rest ih =>
    obtain ⟨hb, hrest⟩ := List.forall_mem_cons.1 h
    obtain ⟨a, ha⟩ := Option.isSome_iff_exists.1 hb
    rw [List.mapM_cons, ha, Option.bind_eq_bind, Option.bind_some, ih hrest, List.filterMap_cons_some ha]
    rfl

/-- One item that cannot be read keeps all of them from being read. -/
theorem mapM_eq_none {α β : Type} {read : β → Option α} {bs : List β} (h : ∃ b ∈ bs, read b = none) :
    bs.mapM read = none := by
  obtain ⟨b, hmem, hb⟩ := h
  obtain ⟨before, after, rfl⟩ := List.append_of_mem hmem
  rw [List.mapM_append, List.mapM_cons, hb]
  cases before.mapM read <;> rfl

/-! ### Records -/

variable {record : List Spellings} {fields : List (List Char × Json)}

/-- A field that the record does not know is passed over. -/
theorem enter_of_unknown {field : List Char × Json} {name : String}
    (hname : literalText? field.1 = some name) (hunknown : ∀ spellings ∈ record, name ∉ spellings)
    (slots : List (Option Json)) : enter record slots field = some slots := by
  have hnone : record.findIdx? (·.contains name) = none := by
    rw [List.findIdx?_eq_none_iff]
    intro spellings hspellings
    simpa using hunknown spellings hspellings
  rw [enter, hname, Option.bind_eq_bind, Option.bind_some, hnone]
  rfl

/-- So are any number of them. -/
theorem foldlM_enter_of_unknown
    (h : ∀ field ∈ fields, ∃ name, literalText? field.1 = some name ∧ ∀ spellings ∈ record, name ∉ spellings)
    (slots : List (Option Json)) : fields.foldlM (enter record) slots = some slots := by
  induction fields with
  | nil => rfl
  | cons field rest ih =>
    obtain ⟨⟨name, hname, hunknown⟩, hrest⟩ := List.forall_mem_cons.1 h
    rw [List.foldlM_cons, enter_of_unknown hname hunknown, Option.bind_eq_bind, Option.bind_some, ih hrest]

/-! ### Values kept for a later reading -/

theorem areFieldsKeepable_iff {room : Nat} : areFieldsKeepable room fields ↔
    ∀ field ∈ fields, (StringLiteral.decode field.1).isSome ∧ isKeepable room field.2 := by
  induction fields with
  | nil => simp [areFieldsKeepable]
  | cons field rest ih => simp [areFieldsKeepable, ih]

theorem isKeepable_ofNat {n : Nat} (h : n < UInt64.size) (room : Nat) : (ofNat n).isKeepable room :=
  Number.isFinite_toDigits h

end MeterBridge.Json
