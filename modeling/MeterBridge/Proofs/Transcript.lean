import MeterBridge.Proofs.Line
import MeterBridge.Proofs.LogForms

/-!
# Transcripts of payloads

The same payloads can be written down as lines of text and as records of a session log. A text transcribes
payloads if it has a line for each of them, in any format and in either case of the digits, and among these
lines any others that carry no payload (`Transcribes`). Records carry payloads if their digits spell them,
one by one (`Session.Carry`).

* `Transcribes.filterMap_lines` — the payloads that the lines of a text carry are those transcribed.
* `Session.Carry.map_kept` — the payloads of the notifications of a log are those that its records carry.
-/

namespace MeterBridge

/-! ### Ends of lines -/

/-- It makes no difference whether a carriage return is cut off. -/
theorem Text.trim_withoutReturn (line : List Char) :
    trim (withoutReturn '\r' line.reverse).reverse = trim line := by
  cases hreverse : line.reverse with
  | nil => rw [List.reverse_eq_nil_iff.1 hreverse]; rfl
  | cons c rest =>
    have hline : line = rest.reverse ++ [c] := by
      rw [← List.reverse_reverse line, hreverse, List.reverse_cons]
    rw [withoutReturn]
    split
    · next hc => rw [hline, trim_append_of_isBlank (by rw [hc]; decide)]
    · rw [hline, List.reverse_cons]

/-- How a line ends. -/
inductive LineEnd where
  /-- With a line feed. -/
  | feed
  /-- With a carriage return and a line feed. -/
  | returnFeed
  deriving DecidableEq, Repr

/-- The characters at the end of a line. -/
def LineEnd.chars : LineEnd → List Char
  | .feed => ['\n']
  | .returnFeed => ['\r', '\n']

/-- A line with its end is cut off as a line that is read in the same way. -/
theorem LineEnd.exists_lines_append (lineEnd : LineEnd) {line : List Char} (h : '\n' ∉ line)
    (rest : List Char) :
    ∃ cut, Text.lines (line ++ (lineEnd.chars ++ rest)) = cut :: Text.lines rest ∧
      Line.payload? (String.ofList cut) = Line.payload? (String.ofList line) := by
  cases lineEnd with
  | feed =>
    refine ⟨_, Text.linesFrom_append_cons h '\r' rest, Line.payload?_congr ?_⟩
    rw [String.toList_ofList, String.toList_ofList, Text.trim_withoutReturn]
  | returnFeed =>
    have hreturn : '\n' ∉ line ++ ['\r'] := by simp [h]
    have hcut : (Text.withoutReturn '\r' (line ++ ['\r']).reverse).reverse = line := by
      rw [List.reverse_append, List.reverse_singleton, List.singleton_append, Text.withoutReturn, if_pos rfl,
        List.reverse_reverse]
    have hlines := Text.linesFrom_append_cons hreturn '\r' rest
    rw [hcut, List.append_assoc] at hlines
    exact ⟨line, hlines, rfl⟩

/-! ### Texts -/

/-- The text has a line for each of the payloads, in their order, and else only lines without a payload. -/
inductive Transcribes : List Char → List Bytes → Prop where
  /-- Nothing is transcribed. -/
  | nil : Transcribes [] []
  /-- A line with digits of a payload, in one of the formats. -/
  | payload (format : LineFormat) (lineEnd : LineEnd) {ds : List Char} {p : Bytes} {rest : List Char}
      {ps : List Bytes} : Hex.Spells ds p → Transcribes rest ps →
        Transcribes (format.body ds ++ (lineEnd.chars ++ rest)) (p :: ps)
  /-- Another line. -/
  | other (lineEnd : LineEnd) {line rest : List Char} {ps : List Bytes} : '\n' ∉ line →
      Line.payload? (String.ofList line) = none → Transcribes rest ps →
        Transcribes (line ++ (lineEnd.chars ++ rest)) ps
  /-- Another line at the end of the text, without a line end. -/
  | unended {line : List Char} : '\n' ∉ line → Line.payload? (String.ofList line) = none →
      Transcribes line []

/-- A framed line has no line feed in it. -/
theorem LineFormat.feed_not_mem_body (format : LineFormat) {ds : List Char} {p : Bytes}
    (h : Hex.Spells ds p) : '\n' ∉ format.body ds := by
  intro hfeed
  exact absurd (format.isPlain_of_mem_body h.isHex _ hfeed) (by decide)

/-- **The payloads of the lines of a text are those transcribed**: each line is read as what it stands for,
however it is framed and ended. -/
theorem Transcribes.filterMap_lines {text : List Char} {ps : List Bytes} (h : Transcribes text ps)
    (hps : ∀ p ∈ ps, p ≠ []) :
    ((Text.lines text).map String.ofList).filterMap Line.payload? = ps := by
  induction h with
  | nil => rfl
  | @payload format lineEnd ds p rest ps hds _ ih =>
    obtain ⟨hp, hps⟩ := List.forall_mem_cons.1 hps
    obtain ⟨cut, hlines, hcut⟩ := lineEnd.exists_lines_append (format.feed_not_mem_body hds) rest
    have hpayload : Line.payload? (String.ofList (format.body ds)) = some p := by
      rw [Line.payload?, format.read_body_of_spells hds hp]
      rfl
    rw [hlines, List.map_cons, List.filterMap_cons_some (hcut.trans hpayload), ih hps]
  | @other lineEnd line rest ps hfeed hline _ ih =>
    obtain ⟨cut, hlines, hcut⟩ := lineEnd.exists_lines_append hfeed rest
    rw [hlines, List.map_cons, List.filterMap_cons_none (hcut.trans hline), ih hps]
  | @unended line hfeed hline =>
    rw [Text.lines, ← List.append_nil line, Text.linesFrom_append_of_not_mem hfeed, Text.linesFrom]
    split
    · rfl
    · rw [List.append_nil, List.reverse_reverse, List.map_singleton, List.filterMap_cons_none hline,
        List.filterMap_nil]

/-! ### Session logs -/

namespace Session

/-- The text is a log of these records in one of the two forms. A document is none of the other form. -/
inductive IsLog (text : String) (records : List Record) : Prop where
  /-- There is a record on each line. -/
  | lines : IsLineLog text records → IsLog text records
  /-- The records are the frames of a document. -/
  | document {frames : List Json} : IsDocument text frames → frames.mapM Record.ofJson? = some records →
      IsLog text records

theorem IsLog.notifications_eq {text : String} {records : List Record} (h : IsLog text records) :
    notifications text = kept records := by
  cases h with
  | lines h => exact h.notifications_eq
  | document h hrecords => exact notifications_of_items (h.items_eq hrecords)

/-- The records carry these payloads: their digits spell them, one by one. -/
def Carry (records : List Record) (payloads : List Bytes) : Prop :=
  List.Forall₂ (fun r p => Hex.Spells r.rawHex.toList p) records payloads

/-- **The payloads of the notifications of a log are those that its records carry.** -/
theorem Carry.map_kept {records : List Record} {payloads : List Bytes} (h : Carry records payloads)
    (hpayloads : ∀ p ∈ payloads, p ≠ []) : (kept records).map (·.payload) = payloads := by
  induction h with
  | nil => rfl
  | @cons r p records payloads hr _ ih =>
    obtain ⟨hp, hpayloads⟩ := List.forall_mem_cons.1 hpayloads
    have hdecode : (Hex.decode r.rawHex).toOption = some p := by
      rw [hr.decode hp]
      rfl
    rw [kept, List.filterMap_cons, hdecode, Option.map_some, List.map_cons]
    exact congrArg _ (ih hpayloads)

end Session

end MeterBridge
