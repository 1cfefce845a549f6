import MeterBridge.Config.Decode
import MeterBridge.Config.Encode
import MeterBridge.Proofs.Hex
import MeterBridge.Proofs.Json.Decode
import MeterBridge.Proofs.SortedMap

/-!
# Configurations read back

Each part of a configuration is read back from the JSON that it is written as: meters and anchors, rules,
which have to be kept until their names are known, and rule tables, whose rows are put into the table again
in the order in which they stood in it. A configuration is written with all its fields; where some of them
are taken out, the standard values take their places (`ofJson?_fieldsOf`).

* `Rule.ofJson?_toJson`, `RuleTable.ofJson?_toJson` — rules and their tables.
* `Config.round_trip` — configurations, with all fields and with some.
-/

namespace MeterBridge

open Json (uint8?_ofNat uint32?_ofNat uint64?_ofNat isSpelled_ofNat)
open Json.StringLiteral (IsPlain isSpelled_key)

/-! ### Literals -/

theorem isPlain_lowerDigits (bs : Bytes) : IsPlain (Hex.lowerDigits bs) :=
  Hex.forall_mem_flatMap_pair (by decide) bs

theorem isPlain_toDigits (n : Nat) : IsPlain (Nat.toDigits 10 n) := by
  intro c hc
  have hdigit : c.isDigit := Nat.isDigit_of_mem_toDigits (by decide) (by decide) hc
  refine ⟨?_, ?_, Nat.le_trans (by decide) (Char.isDigit_iff_toNat.1 hdigit).1⟩
  · rintro rfl
    exact absurd hdigit (by decide)
  · rintro rfl
    exact absurd hdigit (by decide)

/-! ### Meters and anchors -/

theorem Meter.isSpelled_toJson (m : Meter) : m.toJson.IsSpelled :=
  ⟨isSpelled_key (by decide), isSpelled_ofNat _, isSpelled_key (by decide), isSpelled_ofNat _,
    isSpelled_key (by decide), isSpelled_ofNat _, trivial⟩

theorem Meter.ofJson?_toJson (m : Meter) : ofJson? m.toJson = some m := by
  have hrecord : m.toJson.record? [["serial"], ["version"], ["device_type"]] 3 =
      some [some (.ofNat m.serial.toNat), some (.ofNat m.version.toNat),
        some (.ofNat m.deviceType.toNat)] := rfl
  rw [ofJson?, hrecord]
  simp only [Option.bind_eq_bind, Option.bind_some, uint8?_ofNat, uint32?_ofNat]
  rfl

theorem TelegramKind.isPlain_name (kind : TelegramKind) : IsPlain kind.name.toList := by
  cases kind <;> decide

theorem TelegramKind.ofName?_name (kind : TelegramKind) : ofName? kind.name = some kind := by
  cases kind <;> decide

theorem TelegramKind.ofJson?_name (kind : TelegramKind) :
    ofJson? (.string kind.name.toList) = some kind := by
  rw [ofJson?, Json.name?, Json.literalText?_of_isPlain kind.isPlain_name, Option.bind_some,
    String.ofList_toList, ofName?_name]

theorem Anchor.isSpelled_toJson (a : Anchor) : a.toJson.IsSpelled :=
  ⟨isSpelled_key (by decide), (isPlain_lowerDigits _).isSpelled, isSpelled_key (by decide),
    a.kind.isPlain_name.isSpelled, isSpelled_key (by decide), isSpelled_ofNat _, trivial⟩

theorem Anchor.patternOfJson?_lowerDigits (pattern : Bytes) :
    patternOfJson? (.string (Hex.lowerDigits pattern)) = some pattern := by
  rw [patternOfJson?, Json.text?, Json.literalText?_of_isPlain (isPlain_lowerDigits pattern),
    Option.bind_some, String.toList_ofList, (Hex.spells_lowerDigits pattern).pairs?]

theorem Anchor.ofJson?_toJson (a : Anchor) : ofJson? a.toJson = some a := by
  have hrecord : a.toJson.record? [["pattern"], ["kind"], ["window"]] 3 =
      some [some (.string (Hex.lowerDigits a.pattern)), some (.string a.kind.name.toList),
        some (.ofNat a.window.toNat)] := rfl
  rw [ofJson?, hrecord]
  simp only [Option.bind_eq_bind, Option.bind_some, patternOfJson?_lowerDigits,
    TelegramKind.ofJson?_name, uint64?_ofNat]
  rfl

/-! ### Rules -/

namespace Rule

/-- The parameters of a rule, by their names. -/
def parameters : Rule → List (String × UInt64)
  | .singleFrame leastCore => [("min_core_len", leastCore)]
  | .offsetTrim leading trailing => [("prefix", leading), ("suffix", trailing)]
  | .multiFrameScan => []

/-- The parameters as the fields behind the name. -/
def parameterFields (r : Rule) : List (List Char × Json) :=
  r.parameters.map fun (name, value) => (name.toList, .ofNat value.toNat)

theorem toJson_eq (r : Rule) :
    r.toJson = .object (("rule".toList, .string r.name.toList) :: r.parameterFields) := by
  cases r <;> rfl

theorem isPlain_name (r : Rule) : IsPlain r.name.toList := by
  cases r <;> rw [name] <;> decide

theorem isPlain_parameters (r : Rule) : ∀ p ∈ r.parameters, IsPlain p.1.toList := by
  have hleast : IsPlain "min_core_len".toList := by decide
  have hleading : IsPlain "prefix".toList := by decide
  have htrailing : IsPlain "suffix".toList := by decide
  cases r with
  | singleFrame leastCore => exact List.forall_mem_singleton.2 hleast
  | offsetTrim leading trailing =>
    exact List.forall_mem_cons.2 ⟨hleading, List.forall_mem_singleton.2 htrailing⟩
  | multiFrameScan => exact List.forall_mem_nil _

theorem isSpelled_toJson (r : Rule) : r.toJson.IsSpelled := by
  rw [toJson_eq, Json.IsSpelled, Json.areFieldsSpelled_iff, List.forall_mem_cons]
  refine ⟨⟨isSpelled_key (by decide), r.isPlain_name.isSpelled⟩, List.forall_mem_map.2 fun p hp => ?_⟩
  exact ⟨(r.isPlain_parameters p hp).isSpelled, isSpelled_ofNat _⟩

/-- A rule can be kept wherever one more object fits. -/
theorem isKeepable_toJson {room : Nat} (hroom : 0 < room) (r : Rule) : r.toJson.isKeepable room := by
  have hplain : ∀ {text : List Char}, IsPlain text → (Json.StringLiteral.decode text).isSome := by
    intro text h
    rw [h.decode_eq, Option.isSome_some]
  have hkey : IsPlain "rule".toList := by decide
  rw [toJson_eq, Json.isKeepable, decide_eq_true hroom, Bool.true_and, Json.areFieldsKeepable_iff,
    List.forall_mem_cons]
  refine ⟨⟨hplain hkey, hplain r.isPlain_name⟩, List.forall_mem_map.2 fun p hp => ?_⟩
  exact ⟨hplain (r.isPlain_parameters p hp), Json.isKeepable_ofNat p.2.toNat_lt _⟩

theorem nameAndBody?_toJson (r : Rule) :
    nameAndBody? r.toJson = some (.string r.name.toList, .object r.parameterFields) := by
  cases r <;> rfl

theorem ofBody?_parameterFields (r : Rule) : ofBody? r.name (.object r.parameterFields) = some r := by
  cases r with
  | singleFrame leastCore =>
    have hrecord : (Json.object (singleFrame leastCore).parameterFields).record? [["min_core_len"]] 1 =
        some [some (.ofNat leastCore.toNat)] := rfl
    simp [ofBody?, name, hrecord, uint64?_ofNat]
  | offsetTrim leading trailing =>
    have hrecord : (Json.object (offsetTrim leading trailing).parameterFields).record?
        [["prefix"], ["suffix"]] 2 = some [some (.ofNat leading.toNat), some (.ofNat trailing.toNat)] := rfl
    simp [ofBody?, name, hrecord, uint64?_ofNat]
  | multiFrameScan => rfl

theorem ofJson?_toJson {room : Nat} (hroom : 0 < room) (r : Rule) : ofJson? room r.toJson = some r := by
  rw [ofJson?, isKeepable_toJson hroom, nameAndBody?_toJson]
  simp only [Bool.not_true, Bool.false_eq_true, if_false, Option.bind_eq_bind, Option.bind_some, Json.text?,
    Json.literalText?_of_isPlain r.isPlain_name, String.ofList_toList, ofBody?_parameterFields]

end Rule

/-! ### Rule tables -/

namespace RuleTable

theorem isSpelled_toJson (t : RuleTable) : t.toJson.IsSpelled := by
  have hrows : Json.AreFieldsSpelled (t.rows.entries.map rowToField) := by
    rw [Json.areFieldsSpelled_iff, List.forall_mem_map]
    exact fun row _ => ⟨(isPlain_toDigits _).isSpelled, row.2.isSpelled_toJson⟩
  have hfallback : ((t.fallback.map Rule.toJson).getD .null).IsSpelled := by
    cases t.fallback with
    | none => trivial
    | some r => exact r.isSpelled_toJson
  exact ⟨isSpelled_key (by decide), hrows, isSpelled_key (by decide), hfallback, trivial⟩

theorem rowOfField?_rowToField {room : Nat} (hroom : 0 < room) (row : UInt64 × Rule) :
    rowOfField? room (rowToField row) = some row := by
  have hlength : (Json.number (Nat.toDigits 10 row.1.toNat)).uint64? = some row.1 := uint64?_ofNat row.1
  rw [rowOfField?, rowToField, hlength, Rule.ofJson?_toJson hroom]
  rfl

theorem ofJson?_toJson {depth : Nat} (hdepth : depth + 2 < Json.deepest) (t : RuleTable) :
    ofJson? depth t.toJson = some t := by
  have hrecord : t.toJson.record? [["entries"], ["fallback"]] 0 =
      some [some (.object (t.rows.entries.map rowToField)),
        some ((t.fallback.map Rule.toJson).getD .null)] := rfl
  have hrows : Json.optional? (rowsOfJson? (Json.deepest - depth - 2)) []
      (some (.object (t.rows.entries.map rowToField))) = some t.rows.entries :=
    Json.mapM_map (rowOfField?_rowToField (by omega)) _
  have hfallback : Json.optional? (Json.nullable? (Rule.ofJson? (Json.deepest - depth - 1))) none
      (some ((t.fallback.map Rule.toJson).getD .null)) = some t.fallback := by
    cases t.fallback with
    | none => rfl
    | some r =>
      have hread : Json.nullable? (Rule.ofJson? (Json.deepest - depth - 1)) r.toJson =
          (Rule.ofJson? (Json.deepest - depth - 1) r.toJson).map some := rfl
      rw [Option.map_some, Option.getD_some, Json.optional?, hread, Rule.ofJson?_toJson (by omega),
        Option.map_some]
  rw [ofJson?, hrecord]
  simp only [Option.bind_eq_bind, Option.bind_some, hrows, hfallback, ofRows, SortedMap.ofList_entries]
  rfl

end RuleTable

/-! ### Configurations -/

namespace Config

/-- The fields of a configuration that are given. -/
def fieldsOf (c : Config) (isGiven : String → Bool) : List (List Char × Json) :=
  c.toFields.filter fun field => isGiven (String.ofList field.1)

/-- The configuration with the standard values in place of fields that are not given. -/
def orStandard (c : Config) (isGiven : String → Bool) : Config where
  meter := if isGiven "meter" then c.meter else standard.meter
  anchors := if isGiven "anchors" then c.anchors else standard.anchors
  rules := if isGiven "rules" then c.rules else standard.rules
  leastTelegram := if isGiven "min_telegram_len" then c.leastTelegram else standard.leastTelegram

theorem isSpelled_toFields (c : Config) : Json.AreFieldsSpelled c.toFields := by
  have hanchors : Json.AreItemsSpelled (c.anchors.map Anchor.toJson) := by
    rw [Json.areItemsSpelled_iff, List.forall_mem_map]
    exact fun a _ => a.isSpelled_toJson
  exact ⟨isSpelled_key (by decide), c.meter.isSpelled_toJson, isSpelled_key (by decide), hanchors,
    isSpelled_key (by decide), c.rules.isSpelled_toJson, isSpelled_key (by decide), isSpelled_ofNat _,
    trivial⟩

theorem isSpelled_fieldsOf (c : Config) (isGiven : String → Bool) :
    (Json.object (c.fieldsOf isGiven)).IsSpelled := by
  have hfields := Json.areFieldsSpelled_iff.1 c.isSpelled_toFields
  exact Json.areFieldsSpelled_iff.2 fun field hfield => hfields field (List.mem_of_mem_filter hfield)

/-- The fields that are given fill their slots, and the others stay empty. -/
theorem record?_fieldsOf (c : Config) (isGiven : String → Bool) :
    (Json.object (c.fieldsOf isGiven)).record? [["meter"], ["anchors"], ["rules"], ["min_telegram_len"]] 0 =
      some [if isGiven "meter" then some c.meter.toJson else none,
        if isGiven "anchors" then some (.array (c.anchors.map Anchor.toJson)) else none,
        if isGiven "rules" then some c.rules.toJson else none,
        if isGiven "min_telegram_len" then some (.ofNat c.leastTelegram.toNat) else none] := by
  simp only [fieldsOf, toFields, List.filter_cons, List.filter_nil, String.ofList_toList]
  cases isGiven "meter" <;> cases isGiven "anchors" <;> cases isGiven "rules" <;>
    cases isGiven "min_telegram_len" <;> rfl

/-- A field that is given is read, and one that is not has its standard value. -/
theorem optional?_ite {α : Type} {read : Json → Option α} {j : Json} {a : α} (h : read j = some a)
    (default : α) (given : Bool) :
    Json.optional? read default (if given then some j else none) =
      some (if given then a else default) := by
  cases given with
  | true => exact h
  | false => rfl

theorem ofJson?_fieldsOf (c : Config) (isGiven : String → Bool) :
    ofJson? (.object (c.fieldsOf isGiven)) = some (c.orStandard isGiven) := by
  have hanchors : Json.items? Anchor.ofJson? (.array (c.anchors.map Anchor.toJson)) = some c.anchors :=
    Json.mapM_map Anchor.ofJson?_toJson _
  have hrules : RuleTable.ofJson? 1 c.rules.toJson = some c.rules :=
    RuleTable.ofJson?_toJson (by decide) _
  rw [ofJson?, record?_fieldsOf]
  simp only [Option.bind_eq_bind, Option.bind_some, optional?_ite c.meter.ofJson?_toJson,
    optional?_ite hanchors, optional?_ite hrules, optional?_ite (uint64?_ofNat c.leastTelegram)]
  rfl

/-- Whatever the layout of the text is. -/
theorem read_of_parse? {c : Config} {isGiven : String → Bool} {text : String}
    (h : Json.parse? text = some (.object (c.fieldsOf isGiven))) :
    read text = .ok (c.orStandard isGiven) := by
  rw [read, h, Option.bind_some, ofJson?_fieldsOf]

theorem fieldsOf_all (c : Config) : c.fieldsOf (fun _ => true) = c.toFields :=
  List.filter_eq_self.2 fun _ _ => rfl

/-- **Configurations survive.** What is read from the text of a configuration is the configuration, and it
can be loaded if it has no fault. If any of its fields are taken out of the text, then these have their
standard values, and the others are those of the configuration. -/
theorem round_trip (c : Config) :
    read c.toText = .ok c ∧ (c.IsValid → load c.toText = .ok c) ∧
      ∀ isGiven : String → Bool,
        read (Json.object (c.fieldsOf isGiven)).compact = .ok (c.orStandard isGiven) := by
  have hfields : ∀ isGiven, read (Json.object (c.fieldsOf isGiven)).compact = .ok (c.orStandard isGiven) :=
    fun isGiven => read_of_parse? (Json.parse?_compact (c.isSpelled_fieldsOf isGiven))
  have hread : read c.toText = .ok c := by
    have hall := hfields fun _ => true
    rw [fieldsOf_all] at hall
    exact hall
  refine ⟨hread, fun hvalid => ?_, hfields⟩
  rw [IsValid] at hvalid
  rw [load, hread]
  show c.checked = .ok c
  rw [checked, hvalid]

/-- A configuration with rules for the least and the greatest length, and without a fallback. -/
def awkward : Config where
  meter := { serial := 0, version := 255, deviceType := 0 }
  anchors := [{ pattern := [0x00, 0xFF], kind := .unknown, window := 8 }, .full]
  rules := .ofRows [(18446744073709551615, .offsetTrim 18446744073709551613 1), (10, .multiFrameScan),
    (9, .singleFrame 18446744073709551615), (0, .multiFrameScan)] none
  leastTelegram := 18446744073709551615

theorem round_trip_awkward :
    load awkward.toText = .ok awkward ∧
      read (Json.object (awkward.fieldsOf (· = "rules"))).compact =
        .ok (standard.withRules awkward.rules) := by
  obtain ⟨-, hload, hread⟩ := round_trip awkward
  exact ⟨hload (by decide), hread _⟩

end Config

end MeterBridge
