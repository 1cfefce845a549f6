import MeterBridge.Line
import MeterBridge.Output
import MeterBridge.Proofs.Blank
import MeterBridge.Proofs.Hex

/-!
# Framed lines

A line writer puts the digits of a telegram on a line, and the reader of lines takes them off again.
The characters in front of the digits and behind them are chosen so that nothing else happens: none of
them is blank, and none begins the mark of an echo or belongs to a date. The reader does not mind the case
of the digits.

* `digits?_body` — the digits of a framed line are those that were framed.
* `read_body_of_spells` — a framed line carries the bytes that its digits spell.
-/

namespace MeterBridge

/-! ### Reading -/

namespace Line

/-- A mark does not occur in a text without its first character. -/
theorem after?_eq_none {c : Char} {text : List Char} (h : c ∉ text) (mark : List Char) :
    after? (c :: mark) text = none := by
  induction text with
  | nil => rfl
  | cons d text ih =>
    obtain ⟨hcd, htext⟩ := not_or.1 (mt List.mem_cons.2 h)
    have hleading : (c :: mark).isPrefixOf (d :: text) = false := by
      simp [List.isPrefixOf, hcd]
    rw [after?, hleading, if_neg Bool.false_ne_true, ih htext]

/-- A mark at the front is the first one. -/
theorem after?_append {mark : List Char} (h : mark ≠ []) (text : List Char) :
    after? mark (mark ++ text) = some text := by
  obtain ⟨c, rest, rfl⟩ := List.exists_cons_of_ne_nil h
  have hleading : (c :: rest).isPrefixOf (c :: (rest ++ text)) = true :=
    List.isPrefixOf_iff_prefix.2 (List.prefix_append (c :: rest) text)
  rw [List.cons_append, after?, hleading, if_pos rfl]
  exact congrArg some List.drop_left

/-- Digits between two marks are enclosed by them, if the mark begins with no digit. -/
theorem enclosed?_append {ds : List Char} (hds : ds ≠ []) (hhex : ∀ c ∈ ds, Digit.isHex c = true)
    {c : Char} (hc : Digit.isHex c = false) (mark rest : List Char) :
    enclosed? (c :: mark) ((c :: mark) ++ (ds ++ ((c :: mark) ++ rest))) = some ds := by
  have hleading (behind : List Char) : (c :: mark).isPrefixOf ((c :: mark) ++ behind) = true :=
    List.isPrefixOf_iff_prefix.2 (List.prefix_append _ _)
  have hread : (ds ++ ((c :: mark) ++ rest)).takeWhile Digit.isHex = ds := by
    rw [List.takeWhile_append_of_pos hhex, List.cons_append, List.takeWhile_cons_of_neg (by simp [hc]),
      List.append_nil]
  have hrest : (ds ++ ((c :: mark) ++ rest)).dropWhile Digit.isHex = (c :: mark) ++ rest := by
    rw [List.dropWhile_append_of_pos hhex, List.cons_append, List.dropWhile_cons_of_neg (by simp [hc])]
  simp only [enclosed?, hleading, if_true, List.drop_left, hread, hrest]
  simp [hds]

/-- Digits are not enclosed by two bars if one bar stands in front of them. -/
theorem enclosed?_eq_none {c : Char} (hc : c ≠ '|') (rest : List Char) :
    enclosed? ['|', '|'] ('|' :: c :: rest) = none := by
  have hleading : ['|', '|'].isPrefixOf ('|' :: c :: rest) = false := by
    simp [List.isPrefixOf, Ne.symm hc]
  rw [enclosed?, hleading, if_neg Bool.false_ne_true]

theorem mem_of_beginsWithDate {line : List Char} (h : beginsWithDate line = true) : '-' ∈ line := by
  unfold beginsWithDate at h
  split at h
  · simp
  · cases h

/-- Blanks around a line make no difference to what it carries. -/
theorem payload?_congr {line line' : String} (h : Text.trim line.toList = Text.trim line'.toList) :
    payload? line = payload? line' := by
  rw [payload?, payload?, read, read, h]

/-- The character is not blank, begins no mark of an echo and separates no parts of a date. -/
def isPlain (c : Char) : Bool := !Text.isBlank c && c != 'I' && c != '-'

theorem isPlain_of_isHex {c : Char} (h : Digit.isHex c = true) : isPlain c = true := by
  have hne : ∀ d : Char, Digit.isHex d = false → c ≠ d := by
    rintro d hd rfl
    exact absurd (h.symm.trans hd) (by decide)
  simp [isPlain, Digit.isBlank_eq_false h, hne 'I' (by decide), hne '-' (by decide)]

/-- A line of plain characters is no echo of a log. -/
theorem isEcho_eq_false {line : List Char} (h : ∀ c ∈ line, isPlain c = true) : isEcho line = false := by
  have hmark : 'I' ∉ line := fun hI => absurd (h _ hI) (by decide)
  have hhyphen : '-' ∉ line := fun hdate => absurd (h _ hdate) (by decide)
  rw [isEcho, echoMark, after?_eq_none hmark, Option.isSome_none, Bool.false_or,
    Bool.eq_false_iff]
  exact fun hdate => hhyphen (mem_of_beginsWithDate hdate)

/-- A line of plain characters is read for its digits as it stands. -/
theorem read_of_isPlain {line ds : List Char} {bs : Bytes} (h : ∀ c ∈ line, isPlain c = true)
    (hdigits : digits? line = some ds) (hbs : Hex.decodeDigits ds = .ok bs) :
    read (String.ofList line) = .payload bs := by
  have htrim : Text.trim line = line := Text.trim_eq_self fun c hc => by
    have := h c hc
    simp only [isPlain, Bool.and_eq_true, Bool.not_eq_true'] at this
    exact this.1.1
  rw [read, String.toList_ofList, htrim, isEcho_eq_false h]
  simp only [hdigits, hbs]
  rfl

end Line

/-! ### Framing -/

namespace LineFormat

/-- A framed line without its line feed. -/
def body (format : LineFormat) (ds : List Char) : List Char :=
  match format with
  | .pipe => Line.fieldMark ++ (['|'] ++ (ds ++ ['|']))
  | .doublePipe => Line.fieldMark ++ (['|', '|'] ++ (ds ++ ['|', '|']))
  | .bare => ds

theorem toList_frame (format : LineFormat) (bs : Bytes) :
    (format.frame (Hex.encode bs)).toList = format.body (Hex.digits bs) ++ ['\n'] := by
  have hpipe : "telegram=|".toList = Line.fieldMark ++ ['|'] := by decide
  have hpipes : "telegram=||".toList = Line.fieldMark ++ ['|', '|'] := by decide
  cases format with
  | pipe => simp [frame, body, Hex.encode, hpipe]
  | doublePipe => simp [frame, body, Hex.encode, hpipes]
  | bare => simp [frame, body, Hex.encode]

theorem toList_line (format : LineFormat) (t : Telegram) :
    (format.line t).toList = format.body (Hex.digits t.bytes) ++ ['\n'] := format.toList_frame t.bytes

variable {ds : List Char} {bs : Bytes}

/-- What holds of the digits, the name of the field and the bar holds of a framed line. -/
theorem forall_mem_body {p : Char → Prop} (format : LineFormat) (hds : ∀ c ∈ ds, p c)
    (hfield : ∀ c ∈ Line.fieldMark, p c) (hbar : p '|') : ∀ c ∈ format.body ds, p c := by
  cases format with
  | pipe => simpa [body, or_imp, forall_and, hbar] using ⟨hfield, hds⟩
  | doublePipe => simpa [body, or_imp, forall_and, hbar] using ⟨hfield, hds⟩
  | bare => exact hds

theorem isPlain_of_mem_body (format : LineFormat) (hds : ∀ c ∈ ds, Digit.isHex c = true) :
    ∀ c ∈ format.body ds, Line.isPlain c = true :=
  format.forall_mem_body (fun c hc => Line.isPlain_of_isHex (hds c hc))
    (List.all_eq_true.1 (by decide : Line.fieldMark.all Line.isPlain = true)) (by decide)

theorem digits?_body (format : LineFormat) (hds : ∀ c ∈ ds, Digit.isHex c = true) (hne : ds ≠ []) :
    Line.digits? (format.body ds) = some ds := by
  have hfield : Line.fieldMark ≠ [] := by decide
  cases format with
  | pipe =>
    have hnone : Line.enclosed? ['|', '|'] (['|'] ++ (ds ++ ['|'])) = none := by
      obtain ⟨c, rest, rfl⟩ := List.exists_cons_of_ne_nil hne
      have hbar : c ≠ '|' := by
        rintro rfl
        exact absurd (hds _ List.mem_cons_self) (by decide)
      exact Line.enclosed?_eq_none hbar _
    simp only [Line.digits?, body, Line.after?_append hfield, hnone, Option.none_or]
    exact Line.enclosed?_append hne hds (by decide) [] []
  | doublePipe =>
    have hclosed := Line.enclosed?_append hne hds (by decide : Digit.isHex '|' = false) ['|'] []
    simp only [Line.digits?, body, Line.after?_append hfield]
    rw [List.append_nil] at hclosed
    rw [hclosed, Option.some_or]
  | bare =>
    have hmark : 't' ∉ ds := fun ht => absurd (hds _ ht) (by decide)
    have hnone : Line.after? Line.fieldMark ds = none := Line.after?_eq_none hmark _
    have hall : ds.all Digit.isHex = true := List.all_eq_true.2 hds
    simp only [Line.digits?, body, hnone, hall]
    simp [hne]

/-- **A framed line is read as the bytes that its digits spell**, in every format. -/
theorem read_body_of_spells (format : LineFormat) (hds : Hex.Spells ds bs) (h : bs ≠ []) :
    Line.read (String.ofList (format.body ds)) = .payload bs :=
  Line.read_of_isPlain (format.isPlain_of_mem_body hds.isHex) (format.digits?_body hds.isHex (hds.ne_nil h))
    (hds.decodeDigits h)

/-- A telegram that is written is read. -/
theorem read_body (format : LineFormat) (h : bs ≠ []) :
    Line.read (String.ofList (format.body (Hex.digits bs))) = .payload bs :=
  format.read_body_of_spells (Hex.spells_digits bs) h

end LineFormat

end MeterBridge
