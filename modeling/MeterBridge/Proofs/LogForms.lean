import MeterBridge.Proofs.Json.Decode
import MeterBridge.Proofs.Json.Lines
import MeterBridge.Proofs.Lines
import MeterBridge.Session

/-!
# The two forms of session logs

A document is a JSON object with one field `frames`, an array (`IsDocument`); a log of lines has a record on
every line that is not blank (`IsLineLog`). How they are laid out is left open: fields stand in any order
and among others, with any blanks between tokens and lines.

A reader takes a text for a document only if all of it is one. A log of several lines never is, as several
values are no value. In a document each frame has to be a record: then the notifications are those of the
records that can be decoded, as they are for a log of lines. One frame that is no record costs the whole
document: the text is then read line by line, and a document on one line is lost
(`notifications_of_isDocument`).
-/

namespace MeterBridge.Session

/-! ### What a log with some records is read as -/

/-- The items that some records are. -/
def numbered (records : List Record) : List Item :=
  (records.zipIdx 1).map fun (record, index) => { index, record := .ok record }

/-- What a log with some records is to be read as: a notification of each record whose payload can be
decoded. -/
def kept (records : List Record) : List Notification :=
  records.filterMap fun r => (Hex.decode r.rawHex).toOption.map fun payload =>
    { payload, source := r.source, receivedAt := r.timestamp.bind Timestamp.parse? }

theorem kept_eq (records : List Record) : kept records = records.filterMap (·.notification.toOption) := by
  refine List.filterMap_congr fun r _ => ?_
  rw [Record.notification]
  cases Hex.decode r.rawHex <;> rfl

variable {text : String} {frames : List Json} {records : List Record}

theorem notifications_of_items (h : items text = numbered records) : notifications text = kept records := by
  have hfst : records = (records.zipIdx 1).map Prod.fst := (List.zipIdx_map_fst 1 records).symm
  rw [notifications, h, numbered, List.filterMap_map, kept_eq]
  conv_rhs => rw [hfst, List.filterMap_map]
  rfl

/-! ### The first attempt -/

/-- A text that is a document is read as one, if it begins with a brace. -/
theorem items_of_documentRecords? (hbrace : (Text.trimLeft text.toList).head? = some '\x7b')
    (h : documentRecords? text = some records) : items text = numbered records := by
  rw [items, if_pos hbrace, h]
  rfl

/-- Any other text is read line by line. -/
theorem items_of_documentRecords?_eq_none (h : documentRecords? text = none) :
    items text = lineItems text := by
  rw [items, h, ite_self]

/-- Line by line, the records are those of the lines that are not blank. -/
theorem filterMap_lineItems (text : String) :
    (lineItems text).filterMap (·.notification.toOption) =
      (Text.filledLines text.toList).filterMap fun line =>
        (Record.parse? (String.ofList line)).bind (·.notification.toOption) := by
  have hfst : Text.lines text.toList = ((Text.lines text.toList).zipIdx 1).map Prod.fst :=
    (List.zipIdx_map_fst 1 _).symm
  rw [lineItems, List.filterMap_filterMap, Text.filledLines, List.filterMap_filter]
  conv_rhs => rw [hfst, List.filterMap_map]
  refine List.filterMap_congr fun ⟨line, index⟩ _ => ?_
  simp only [Function.comp_apply]
  cases line.all Text.isBlank with
  | true => rfl
  | false => cases Record.parse? (String.ofList line) <;> rfl

/-! ### Documents -/

/-- The text is an object with one field `frames`, and this is an array of these values. -/
def IsDocument (text : String) (frames : List Json) : Prop :=
  ∃ before key after,
    Json.parse? text = some (.object (before ++ (key, .array frames) :: after)) ∧
      Json.literalText? key = some "frames" ∧
      ∀ field ∈ before ++ after, ∃ name, Json.literalText? field.1 = some name ∧ name ≠ "frames"

/-- A document has the records that its frames are, if all of them are records. -/
theorem IsDocument.documentRecords?_eq (h : IsDocument text frames) :
    documentRecords? text = frames.mapM Record.ofJson? := by
  obtain ⟨before, key, after, hparse, hkey, hothers⟩ := h
  have hunknown : ∀ field ∈ before ++ after, ∃ name, Json.literalText? field.1 = some name ∧
      ∀ spellings ∈ [["frames"]], name ∉ spellings := by
    intro field hfield
    obtain ⟨name, hname, hne⟩ := hothers field hfield
    exact ⟨name, hname, by simpa using hne⟩
  obtain ⟨hbefore, hafter⟩ := List.forall_mem_append.1 hunknown
  have hframes : Json.enter [["frames"]] [none] (key, .array frames) = some [some (.array frames)] := by
    rw [Json.enter, hkey]
    rfl
  have hrecord : (Json.object (before ++ (key, .array frames) :: after)).record? [["frames"]] 1 =
      some [some (.array frames)] := by
    have hstart : [["frames"]].map (fun _ => (none : Option Json)) = [none] := rfl
    rw [Json.record?, List.foldlM_append, hstart, Json.foldlM_enter_of_unknown hbefore,
      Option.bind_eq_bind, Option.bind_some, List.foldlM_cons, hframes, Option.bind_eq_bind,
      Option.bind_some, Json.foldlM_enter_of_unknown hafter]
  rw [documentRecords?, hparse]
  simp only [Option.bind_eq_bind, Option.bind_some, hrecord, Json.items?]

theorem IsDocument.items_eq (h : IsDocument text frames) (hrecords : frames.mapM Record.ofJson? = some records) :
    items text = numbered records := by
  have hdocument := h.documentRecords?_eq
  obtain ⟨_, _, _, hparse, -⟩ := h
  exact items_of_documentRecords? (Json.head?_trimLeft_of_parse? hparse) (hdocument.trans hrecords)

/-- A text without a line break has one line. -/
theorem filledLines_of_not_mem (h : '\n' ∉ text.toList) :
    ∀ line ∈ Text.filledLines text.toList, String.ofList line = text := by
  intro line hline
  have hmem : line ∈ Text.lines text.toList := List.mem_of_mem_filter hline
  rw [Text.lines, ← List.append_nil text.toList, Text.linesFrom_append_of_not_mem h, Text.linesFrom] at hmem
  split at hmem
  · cases hmem
  · rw [List.mem_singleton.1 hmem, List.append_nil, List.reverse_reverse, String.ofList_toList]

/-- **All frames or none**: a document is read as its records only if all of its frames are records. With one
that is not, what is read are the lines that are records by themselves, and of a document on one line, unless
it is a record as well, nothing. -/
theorem notifications_of_isDocument (h : IsDocument text frames) :
    ((∀ frame ∈ frames, (Record.ofJson? frame).isSome) →
      notifications text = kept (frames.filterMap Record.ofJson?)) ∧
    ((∃ frame ∈ frames, Record.ofJson? frame = none) →
      notifications text = ((Text.filledLines text.toList).filterMap fun line =>
        (Record.parse? (String.ofList line)).bind (·.notification.toOption)) ∧
      ('\n' ∉ text.toList → Record.parse? text = none → notifications text = [])) := by
  constructor
  · intro hall
    exact notifications_of_items (h.items_eq (Json.mapM_eq_some_filterMap hall))
  · intro hbad
    have hdocument := h.documentRecords?_eq
    rw [Json.mapM_eq_none hbad] at hdocument
    have hlines : notifications text = (Text.filledLines text.toList).filterMap fun line =>
        (Record.parse? (String.ofList line)).bind (·.notification.toOption) := by
      rw [notifications, items_of_documentRecords?_eq_none hdocument, filterMap_lineItems]
    refine ⟨hlines, fun hbreak hrecord => ?_⟩
    rw [hlines, List.filterMap_eq_nil_iff]
    intro line hline
    rw [filledLines_of_not_mem hbreak line hline, hrecord, Option.bind_none]

/-- A document with a frame that is a record and one that is none. -/
def brokenLog : String := "\x7b\"frames\":[\x7b\"raw_hex\":\"ABCD\"\x7d,\x7b\x7d]\x7d"

/-- The frames of the broken document. -/
def brokenFrames : List Json := [.object [("raw_hex".toList, .string "ABCD".toList)], .object []]

theorem isDocument_brokenLog : IsDocument brokenLog brokenFrames := by
  have hparse : Json.parse? brokenLog = some (.object [("frames".toList, .array brokenFrames)]) :=
    Json.parse?_eq_some_iff.2 (by decide +kernel)
  exact ⟨[], "frames".toList, [], hparse, by decide, List.forall_mem_nil _⟩

/-- The record in the broken document is lost. -/
theorem notifications_of_isDocument_brokenLog :
    notifications brokenLog = [] ∧
      kept (brokenFrames.filterMap Record.ofJson?) = [⟨[0xAB, 0xCD], "session", none⟩] := by
  have hbad : Record.ofJson? (.object []) = none := rfl
  have hread := (notifications_of_isDocument isDocument_brokenLog).2 ⟨_, by simp [brokenFrames], hbad⟩
  exact ⟨hread.2 (by decide +kernel) (by decide +kernel), by decide +kernel⟩

/-- So a frame that is no record is not skipped alone. -/
theorem not_skipped_alone : ¬ ∀ text frames, IsDocument text frames →
    notifications text = kept (frames.filterMap Record.ofJson?) := by
  intro h
  exact absurd (h _ _ isDocument_brokenLog) (by decide +kernel)

/-! ### Logs of lines -/

/-- Every line that is not blank is a record, and not a document as well if it is the only one. -/
structure IsLineLog (text : String) (records : List Record) : Prop where
  /-- The records are those of the lines that are not blank. -/
  lines : List.Forall₂ (fun line r => Record.parse? (String.ofList line) = some r)
    (Text.filledLines text.toList) records
  /-- A line by itself is no document. -/
  alone : ∀ line, Text.filledLines text.toList = [line] → documentRecords? (String.ofList line) = none

/-- A log of lines is no document. -/
theorem IsLineLog.documentRecords?_eq_none (h : IsLineLog text records) : documentRecords? text = none := by
  cases hparse : Json.parse? text with
  | none =>
    rw [documentRecords?, hparse]
    rfl
  | some j =>
    have hvalue : ∀ line r, Record.parse? (String.ofList line) = some r → ∃ j, Json.IsLineOf line j := by
      intro line r hr
      obtain ⟨j, hj, -⟩ := Option.bind_eq_some_iff.1 hr
      exact ⟨j, hj⟩
    have hlines : ∀ line ∈ Text.filledLines text.toList, ∃ j, Json.IsLineOf line j :=
      ((List.forall₂_and_left _ _).1 (h.lines.imp fun line r hr => ⟨hvalue line r hr, hr⟩)).1
    obtain ⟨line, hfilled, hline⟩ := Json.exists_line_of_parse? hparse hlines
    have halone := h.alone line hfilled
    rw [documentRecords?, hline] at halone
    rwa [documentRecords?, hparse]

theorem IsLineLog.notifications_eq (h : IsLineLog text records) : notifications text = kept records := by
  rw [notifications, items_of_documentRecords?_eq_none h.documentRecords?_eq_none, filterMap_lineItems, kept_eq]
  have hlines := h.lines
  generalize Text.filledLines text.toList = ls at hlines
  clear h
  induction hlines with
  | nil => rfl
  | cons hline _ ih => rw [List.filterMap_cons, List.filterMap_cons, hline, Option.bind_some, ih]

end MeterBridge.Session
