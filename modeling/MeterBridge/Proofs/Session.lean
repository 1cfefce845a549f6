import MeterBridge.Proofs.LogForms
import Mathlib.Data.List.Basic

/-!
# Session logs read back

Records that are written as JSON are read back, one by one and as logs. A log has one record per line
(`lineLog`) or is a document with the records under `frames`, among fields of other names
(`documentLog`). These are logs of the two forms (`isLineLog_lineLog`, `isDocument_documentLog`), and both
have the same items, the records with their numbers.
-/

namespace MeterBridge

namespace Session

open Json.StringLiteral (isSpelled_key)

/-! ### One record -/

namespace Record

theorem isSpelled_optionToJson (text : Option String) : (optionToJson text).IsSpelled := by
  cases text with
  | none => trivial
  | some text => exact Json.StringLiteral.isSpelled_encode _

theorem isSpelled_toJson (r : Record) : r.toJson.IsSpelled := by
  have hlength : ((r.dataLength.map fun n => Json.ofNat n.toNat).getD .null).IsSpelled := by
    cases r.dataLength with
    | none => trivial
    | some n => exact Json.isSpelled_ofNat _
  exact ⟨isSpelled_key (by decide), isSpelled_optionToJson _,
    isSpelled_key (by decide), isSpelled_optionToJson _,
    isSpelled_key (by decide), isSpelled_optionToJson _,
    isSpelled_key (by decide), isSpelled_optionToJson _,
    isSpelled_key (by decide), hlength,
    isSpelled_key (by decide), Json.StringLiteral.isSpelled_encode _,
    isSpelled_key (by decide), isSpelled_optionToJson _, trivial⟩

theorem field?_optionToJson (text : Option String) :
    field? Json.text? (some (optionToJson text)) = some text := by
  cases text with
  | none => rfl
  | some text =>
    have hread : field? Json.text? (some (textToJson text)) =
        (Json.literalText? (Json.StringLiteral.encode text.toList)).map some := rfl
    rw [optionToJson, Option.map_some, Option.getD_some, hread, Json.literalText?_encode, Option.map_some]

theorem field?_ofNat (n : Option UInt64) :
    field? Json.uint64? (some ((n.map fun n => Json.ofNat n.toNat).getD .null)) = some n := by
  cases n with
  | none => rfl
  | some n =>
    have hread : field? Json.uint64? (some (Json.ofNat n.toNat)) =
        (Json.uint64? (Json.ofNat n.toNat)).map some := rfl
    rw [Option.map_some, Option.getD_some, hread, Json.uint64?_ofNat, Option.map_some]

/-- The fields of a record fill their slots. -/
theorem record?_toJson (r : Record) :
    r.toJson.record? spellings spellings.length =
      some [some (optionToJson r.timestamp), some (optionToJson r.deviceName),
        some (optionToJson r.deviceAddress), some (optionToJson r.characteristic),
        some ((r.dataLength.map fun n => Json.ofNat n.toNat).getD .null),
        some (textToJson r.rawHex), some (optionToJson r.rawText)] := rfl

theorem ofJson?_toJson (r : Record) : ofJson? r.toJson = some r := by
  have hhex : (textToJson r.rawHex).text? = some r.rawHex := Json.literalText?_encode _
  rw [ofJson?, record?_toJson]
  simp [field?_optionToJson, field?_ofNat, hhex]

/-- **A record is read back from its JSON text.** -/
theorem parse?_compact (r : Record) : parse? r.toJson.compact = some r := by
  rw [parse?, Json.parse?_compact r.isSpelled_toJson, Option.bind_some, ofJson?_toJson]

/-- The text of a record is a line of its own: it has no control character and begins with a brace. -/
theorem compactChars_toJson (r : Record) :
    ∃ rest, r.toJson.compactChars = '\x7b' :: rest ∧ '\n' ∉ r.toJson.compactChars ∧
      '\r' ∉ r.toJson.compactChars := by
  have hcontrol := Json.isPrintable_compactChars _ r.isSpelled_toJson
  refine ⟨_, rfl, fun h => ?_, fun h => ?_⟩
  · exact absurd (hcontrol _ h) (by decide)
  · exact absurd (hcontrol _ h) (by decide)

end Record

/-! ### Two forms of a log -/

/-- The JSON texts of records, with line feeds between them. -/
def lineLog (records : List Record) : String :=
  "\n".intercalate (records.map fun r => r.toJson.compact)

/-- A document with the records under `frames`, among other fields. -/
def documentLog (before : List (List Char × Json)) (records : List Record)
    (after : List (List Char × Json)) : String :=
  (Json.object (before ++ ("frames".toList, .array (records.map (·.toJson))) :: after)).compact

/-- The field has a place in a document beside `frames`: it is JSON, and its key is another one. -/
structure IsFurther (field : List Char × Json) : Prop where
  /-- The key is a string. -/
  key : Json.StringLiteral.IsSpelled field.1
  /-- The value is JSON. -/
  value : field.2.IsSpelled
  /-- The key is not `frames`. -/
  name : ∃ name, Json.literalText? field.1 = some name ∧ name ≠ "frames"

/-! ### Documents -/

theorem mapM_ofJson? (records : List Record) :
    (records.map (·.toJson)).mapM Record.ofJson? = some records := Json.mapM_map Record.ofJson?_toJson records

variable {before after : List (List Char × Json)}

theorem isSpelled_document (hbefore : ∀ f ∈ before, IsFurther f) (records : List Record)
    (hafter : ∀ f ∈ after, IsFurther f) :
    (Json.object (before ++ ("frames".toList, .array (records.map (·.toJson))) :: after)).IsSpelled := by
  have hframes : Json.StringLiteral.IsSpelled "frames".toList := isSpelled_key (by decide)
  have hrecords : Json.AreItemsSpelled (records.map (·.toJson)) := by
    rw [Json.areItemsSpelled_iff, List.forall_mem_map]
    exact fun r _ => r.isSpelled_toJson
  refine Json.areFieldsSpelled_iff.2 (List.forall_mem_append.2 ⟨fun f hf => ?_, ?_⟩)
  · exact ⟨(hbefore f hf).key, (hbefore f hf).value⟩
  · refine List.forall_mem_cons.2 ⟨⟨hframes, hrecords⟩, fun f hf => ?_⟩
    exact ⟨(hafter f hf).key, (hafter f hf).value⟩

theorem isDocument_documentLog (hbefore : ∀ f ∈ before, IsFurther f) (records : List Record)
    (hafter : ∀ f ∈ after, IsFurther f) :
    IsDocument (documentLog before records after) (records.map (·.toJson)) := by
  have hkey : Json.literalText? "frames".toList = some "frames" := rfl
  refine ⟨before, "frames".toList, after, ?_, hkey, List.forall_mem_append.2 ⟨?_, ?_⟩⟩
  · exact Json.parse?_compact (isSpelled_document hbefore records hafter)
  · exact fun f hf => (hbefore f hf).name
  · exact fun f hf => (hafter f hf).name

theorem items_documentLog (hbefore : ∀ f ∈ before, IsFurther f) (records : List Record)
    (hafter : ∀ f ∈ after, IsFurther f) :
    items (documentLog before records after) = numbered records :=
  (isDocument_documentLog hbefore records hafter).items_eq (mapM_ofJson? records)

/-! ### Lines -/

theorem toList_lineLog (records : List Record) :
    (lineLog records).toList = ['\n'].intercalate (records.map fun r => r.toJson.compactChars) := by
  rw [lineLog, String.toList_intercalate, List.map_map]
  simp [Function.comp_def, Json.compact]

/-- A log with one record per line has these lines. -/
theorem lines_lineLog (records : List Record) :
    Text.lines (lineLog records).toList = records.map fun r => r.toJson.compactChars := by
  rw [toList_lineLog]
  refine Text.linesFrom_intercalate (List.forall_mem_map.2 fun r _ => ?_)
  obtain ⟨rest, hrest, hfeed, hreturn⟩ := r.compactChars_toJson
  exact ⟨by rw [hrest]; exact List.cons_ne_nil _ _, hfeed, hreturn⟩

/-- None of them is blank. -/
theorem filledLines_lineLog (records : List Record) :
    Text.filledLines (lineLog records).toList = records.map fun r => r.toJson.compactChars := by
  rw [Text.filledLines, lines_lineLog, List.filter_eq_self, List.forall_mem_map]
  intro r _
  obtain ⟨rest, hrest, -, -⟩ := r.compactChars_toJson
  rw [hrest, List.all_cons]
  rfl

theorem isLineLog_lineLog (records : List Record) : IsLineLog (lineLog records) records where
  lines := by
    rw [filledLines_lineLog, List.forall₂_map_left_iff, List.forall₂_same]
    exact fun r _ => r.parse?_compact
  alone := by
    rw [filledLines_lineLog]
    intro line hline
    obtain ⟨r, -, rfl⟩ := List.map_eq_singleton_iff.1 hline
    have hrecord : r.toJson.record? [["frames"]] 1 = some [none] := rfl
    have hparse : Json.parse? (String.ofList r.toJson.compactChars) = some r.toJson :=
      Json.parse?_compact r.isSpelled_toJson
    rw [documentRecords?, hparse, Option.bind_eq_bind, Option.bind_some, hrecord]
    rfl

theorem lineItems_lineLog (records : List Record) : lineItems (lineLog records) = numbered records := by
  rw [lineItems, lines_lineLog, List.zipIdx_map, List.filterMap_map, numbered,
    List.filterMap_eq_map_iff_forall_eq_some]
  rintro ⟨r, index⟩ -
  obtain ⟨rest, hrest, -, -⟩ := r.compactChars_toJson
  have hblank : r.toJson.compactChars.all Text.isBlank = false := by
    rw [hrest, List.all_cons]
    rfl
  have hparse : Record.parse? (String.ofList r.toJson.compactChars) = some r := r.parse?_compact
  simp only [Function.comp_apply, Prod.map_apply, id_eq, hblank, hparse, Bool.false_eq_true, if_false]

theorem items_lineLog (records : List Record) : items (lineLog records) = numbered records :=
  (items_of_documentRecords?_eq_none (isLineLog_lineLog records).documentRecords?_eq_none).trans
    (lineItems_lineLog records)

/-! ### Notifications -/

/-- **Records survive both forms of a log.** Each is read back from its JSON, and a log with one record per
line and a document with the records are read as the notifications of the records that can be decoded. -/
theorem records_survive (records : List Record) :
    (∀ r ∈ records, Record.parse? r.toJson.compact = some r) ∧
      notifications (lineLog records) = kept records ∧
      ∀ before after, (∀ f ∈ before, IsFurther f) → (∀ f ∈ after, IsFurther f) →
        notifications (documentLog before records after) = kept records :=
  ⟨fun r _ => r.parse?_compact, notifications_of_items (items_lineLog records),
    fun _ _ hbefore hafter => notifications_of_items (items_documentLog hbefore records hafter)⟩

/-- Texts with quotes, backslashes, control characters and line ends in them, a payload that cannot be
decoded, and a text that looks like a document. -/
def awkwardRecords : List Record :=
  [{ timestamp := some "2024-02-29T23:59:59.5+02:00", deviceName := some "a\"b\\c\r\n\t\x01\x7f",
     deviceAddress := none, characteristic := some "\n", dataLength := some 18446744073709551615,
     rawHex := "FB fb\n0A", rawText := some "\x7b\"frames\":[]\x7d\n" },
   { timestamp := none, deviceName := none, deviceAddress := none, characteristic := none,
     dataLength := none, rawHex := "ABC", rawText := none },
   { timestamp := some "yesterday", deviceName := some "b", deviceAddress := some "", characteristic := none,
     dataLength := none, rawHex := "68", rawText := none }]

/-- A field with a nested value and a key that is spelled with an escape. -/
def furtherField : List Char × Json :=
  (['f', 'r', 'a', 'm', '\\', 'u', '0', '0', '6', '5'],
    .array [.number ['-', '1', '.', '5', 'e', '+', '1', '0'], .object [([], .null)]])

theorem isFurther_furtherField : IsFurther furtherField where
  key := by
    have hcode : (Json.StringLiteral.unit? '0' '0' '6' '5').isSome := by decide
    refine .plain ?_ ?_ ?_ (.plain ?_ ?_ ?_ (.plain ?_ ?_ ?_ (.plain ?_ ?_ ?_ (.code hcode .nil))))
    all_goals decide
  value := by
    have hnumber : Json.Number.isWellFormed ['-', '1', '.', '5', 'e', '+', '1', '0'] := by decide
    exact ⟨hnumber, ⟨.nil, trivial, trivial⟩, trivial⟩
  name := ⟨"frame", by decide, by decide⟩

theorem records_survive_awkwardRecords :
    (∀ f ∈ [furtherField], IsFurther f) ∧
      notifications (documentLog [furtherField] awkwardRecords [furtherField]) =
        notifications (lineLog awkwardRecords) ∧
      kept awkwardRecords =
        [⟨[0xFB, 0xFB, 0x0A], "a\"b\\c\r\n\t\x01\x7f/\n", some ⟨1709243999, 500000000⟩⟩,
          ⟨[0x68], "", none⟩] := by
  have hfurther : ∀ f ∈ [furtherField], IsFurther f := List.forall_mem_singleton.2 isFurther_furtherField
  have hsurvive := records_survive awkwardRecords
  exact ⟨hfurther, (hsurvive.2.2 _ _ hfurther hfurther).trans hsurvive.2.1.symm, by decide +kernel⟩

end Session

end MeterBridge
