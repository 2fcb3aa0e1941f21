import Mathlib.Data.List.DropRight
import Telemetry.Proofs.Log.File
import Telemetry.Proofs.Log.Glued
import Telemetry.Proofs.Time.Timestamp

/-!
# Resuming after what was appended

Records are appended to a file of any bytes: other programs write there too, and a crash can leave
a line without its end. What decides whether the file can be resumed from is the open tail, the
bytes behind the last line end. The first record that is appended goes on in that line
(`lines_append_encode`), so it can be read back when the open tail shows nothing but blanks, and
only then (`readLine?_append_lineBytes`). Every later record has a line of its own.
-/

namespace Telemetry.LogFile

/-! ## Lines -/

/-- The lines of a file that are not empty. -/
def lines (content : List UInt8) : List (List UInt8) :=
  (content.splitOnP isLineEnd).filter fun line ↦ !line.isEmpty

/-- The bytes behind the last line end. -/
def openTail (content : List UInt8) : List UInt8 := content.rtakeWhile fun b ↦ !isLineEnd b

/-- The record that a line holds, with blanks around it at most, and whatever its bytes are. -/
def readLine? (line : List UInt8) : Option LogRecord :=
  LogRecord.ofLine? (Text.trimChars (Utf8.decodeLossyChars line))

/-- The line shows nothing but blanks. -/
def IsBlankLine (line : List UInt8) : Prop :=
  ∀ c ∈ Utf8.decodeLossyChars line, Text.isBlank c = true

instance (line : List UInt8) : Decidable (IsBlankLine line) :=
  List.decidableBAll (fun c ↦ Text.isBlank c = true) (Utf8.decodeLossyChars line)

/-- The last lines of a file are records, one line each. -/
def EndsWith (content : List UInt8) (records : List LogRecord) : Prop :=
  ∃ before own, lines content = before ++ own ∧ own.map readLine? = records.map some

theorem lines_append_cons {b : UInt8} (hb : isLineEnd b = true) (before after : List UInt8) :
    lines (before ++ b :: after) = lines before ++ lines after := by
  rw [lines, List.splitOnP_append_cons _ _ hb, List.filter_append]
  rfl

theorem lines_append_of_isTerminated {closed : List UInt8} (h : IsTerminated closed)
    (after : List UInt8) : lines (closed ++ after) = lines closed ++ lines after := by
  rcases h with rfl | ⟨before, b, rfl, hb⟩
  · rfl
  · have hclosed : lines (before ++ [b]) = lines before :=
      (lines_append_cons hb before []).trans (List.append_nil _)
    rw [List.append_assoc, List.singleton_append, lines_append_cons hb, hclosed]

theorem lines_of_stretch {stretch : List UInt8} (hne : stretch ≠ [])
    (h : ∀ b ∈ stretch, isLineEnd b = false) : lines stretch = [stretch] := by
  have hempty : (!stretch.isEmpty) = true := by
    rw [Bool.not_eq_true', List.isEmpty_eq_false_iff]
    exact hne
  rw [lines, List.splitOnP_eq_singleton h, List.filter_singleton, hempty]
  rfl

theorem lines_encode (records : List LogRecord) :
    lines (encode records) = records.map lineBytes := by
  induction records with
  | nil => rfl
  | cons r records ih =>
    rw [encode_cons, lines_append_cons (by decide), ih, List.map_cons,
      lines_of_stretch (lineBytes_ne_nil r) fun _ ↦ not_isLineEnd_of_mem_lineBytes]
    rfl

/-! ## The open tail -/

theorem not_isLineEnd_of_mem_openTail {content : List UInt8} {b : UInt8}
    (h : b ∈ openTail content) : isLineEnd b = false := by
  have hb := List.mem_rtakeWhile_imp h
  rwa [Bool.not_eq_true'] at hb

theorem openTail_append {closed stretch : List UInt8} (hclosed : IsTerminated closed)
    (h : ∀ b ∈ stretch, isLineEnd b = false) : openTail (closed ++ stretch) = stretch := by
  have hstretch : ∀ b ∈ stretch.reverse, (!isLineEnd b) = true := fun b hb ↦ by
    rw [h b (List.mem_reverse.1 hb), Bool.not_false]
  have hstops : closed.reverse.takeWhile (fun b ↦ !isLineEnd b) = [] := by
    rcases hclosed with rfl | ⟨before, b, rfl, hb⟩
    · rfl
    · rw [List.reverse_concat]
      exact List.takeWhile_cons_of_neg (by rw [hb]; decide)
  rw [openTail, List.rtakeWhile, List.reverse_append, List.takeWhile_append_of_pos hstretch,
    hstops, List.append_nil, List.reverse_reverse]

theorem openTail_of_isTerminated {content : List UInt8} (h : IsTerminated content) :
    openTail content = [] := by
  rw [← List.append_nil content]
  exact openTail_append h nofun

/-- A file is what its line ends close, and the open tail. -/
theorem exists_eq_append_openTail (content : List UInt8) :
    ∃ closed, IsTerminated closed ∧ content = closed ++ openTail content := by
  refine ⟨content.rdropWhile fun b ↦ !isLineEnd b, ?_,
    List.rdropWhile_append_rtakeWhile.symm⟩
  by_cases hne : (content.rdropWhile fun b ↦ !isLineEnd b) = []
  · exact .inl hne
  · refine .inr ⟨_, _, (List.dropLast_append_getLast hne).symm, ?_⟩
    have hlast := List.rdropWhile_last_not _ _ hne
    rwa [Bool.not_eq_true', Bool.not_eq_false] at hlast

/-- The first record that is appended goes on in the open tail, and the others have lines of their
own. -/
theorem lines_append_encode (content : List UInt8) (r : LogRecord) (records : List LogRecord) :
    ∃ before, lines (content ++ encode (r :: records)) =
      before ++ (openTail content ++ lineBytes r) :: records.map lineBytes := by
  obtain ⟨closed, hclosed, hcontent⟩ := exists_eq_append_openTail content
  have hglued : ∀ b ∈ openTail content ++ lineBytes r, isLineEnd b = false := fun b hb ↦
    (List.mem_append.1 hb).elim not_isLineEnd_of_mem_openTail not_isLineEnd_of_mem_lineBytes
  refine ⟨lines closed, ?_⟩
  conv_lhs => rw [hcontent]
  rw [List.append_assoc, lines_append_of_isTerminated hclosed, encode_cons, ← List.append_assoc,
    lines_append_cons (by decide), lines_encode,
    lines_of_stretch (List.append_ne_nil_of_right_ne_nil _ (lineBytes_ne_nil r)) hglued]
  rfl

/-- Going backwards, the record that was appended last is found with the open tail before it. -/
theorem lastLineBytes_append_lineBytes (content : List UInt8) (r : LogRecord) :
    lastLineBytes (content ++ (lineBytes r ++ [10])) = openTail content ++ lineBytes r := by
  obtain ⟨closed, hclosed, hcontent⟩ := exists_eq_append_openTail content
  conv_lhs => rw [hcontent]
  rw [List.append_assoc, ← List.append_assoc (openTail content), ← List.append_assoc]
  exact lastLineBytes_append_line hclosed
    (List.append_ne_nil_of_right_ne_nil _ (lineBytes_ne_nil r)) fun b hb ↦
      (List.mem_append.1 hb).elim not_isLineEnd_of_mem_openTail not_isLineEnd_of_mem_lineBytes

/-! ## A record behind an open tail -/

theorem decodeLossyChars_append_lineBytes (tail : List UInt8) (r : LogRecord) :
    Utf8.decodeLossyChars (tail ++ lineBytes r) = Utf8.decodeLossyChars tail ++ r.line := by
  have hline := Utf8.decodeLossyChars_encodeChars r.line
  have hopens : ∃ more, lineBytes r = 0x7B :: more := by
    rw [lineBytes, LogRecord.line_eq]
    exact ⟨_, rfl⟩
  obtain ⟨more, hmore⟩ := hopens
  rw [← lineBytes, hmore] at hline
  rw [hmore, Utf8.decodeLossyChars_append (by decide), hline]

/-- Behind blanks a record is read, and behind anything else it is not. -/
theorem readLine?_append_lineBytes (tail : List UInt8) (r : LogRecord) :
    readLine? (tail ++ lineBytes r) = if IsBlankLine tail then some r else none := by
  rw [readLine?, decodeLossyChars_append_lineBytes]
  by_cases h : IsBlankLine tail
  · rw [if_pos h]
    exact LogRecord.ofLine?_blank_append_line h r
  · rw [if_neg h]
    exact LogRecord.ofLine?_append_line h r

theorem isBlankLine_nil : IsBlankLine [] := by
  have hnone : Utf8.decodeLossyChars [] = [] := Utf8.decodeLossyChars_encodeChars []
  rw [IsBlankLine, hnone]
  exact nofun

theorem readLine?_lineBytes (r : LogRecord) : readLine? (lineBytes r) = some r :=
  (readLine?_append_lineBytes [] r).trans (if_pos isBlankLine_nil)

theorem openTail_lineBytes (r : LogRecord) : openTail (lineBytes r) = lineBytes r :=
  openTail_append (.inl rfl) fun _ ↦ not_isLineEnd_of_mem_lineBytes

theorem not_isBlankLine_lineBytes (r : LogRecord) : ¬ IsBlankLine (lineBytes r) := by
  intro h
  rw [IsBlankLine, lineBytes, Utf8.decodeLossyChars_encodeChars, LogRecord.line_eq] at h
  exact absurd (h '\x7b' List.mem_cons_self) (by decide)

/-! ## Appending -/

/-- The last lines are the records that were appended when nothing but blanks stood behind the last
line end, and only then. -/
theorem endsWith_append_encode_iff (content : List UInt8) (r : LogRecord)
    (records : List LogRecord) :
    EndsWith (content ++ encode (r :: records)) (r :: records) ↔
      IsBlankLine (openTail content) := by
  have hrest : (records.map lineBytes).map readLine? = records.map some := by
    rw [List.map_map]
    exact List.map_congr_left fun r _ ↦ readLine?_lineBytes r
  obtain ⟨before, hlines⟩ := lines_append_encode content r records
  constructor
  · rintro ⟨before', own, hown, hread⟩
    have hlength : own.length = ((openTail content ++ lineBytes r) ::
        records.map lineBytes).length := by
      have := congrArg List.length hread
      simpa using this
    rw [hown] at hlines
    obtain ⟨-, rfl⟩ := List.append_inj' hlines hlength
    have hfirst := List.head_eq_of_cons_eq hread
    rw [readLine?_append_lineBytes] at hfirst
    by_contra hblank
    rw [if_neg hblank] at hfirst
    cases hfirst
  · intro hblank
    refine ⟨before, _, hlines, ?_⟩
    rw [List.map_cons, hrest, readLine?_append_lineBytes, if_pos hblank, List.map_cons]

theorem isTerminated_append_encode_concat (content : List UInt8) (records : List LogRecord)
    (r : LogRecord) : IsTerminated (content ++ encode (records ++ [r])) := by
  refine .inr ⟨content ++ encode records ++ lineBytes r, 10, ?_, rfl⟩
  rw [encode_append, encode_cons, encode_nil, List.append_assoc, List.append_assoc]

theorem isBlankLine_openTail_append_encode {content : List UInt8}
    (h : IsBlankLine (openTail content)) (records : List LogRecord) :
    IsBlankLine (openTail (content ++ encode records)) := by
  rcases List.eq_nil_or_concat records with rfl | ⟨init, r, rfl⟩
  · rwa [encode_nil, List.append_nil]
  · rw [List.concat_eq_append,
      openTail_of_isTerminated (isTerminated_append_encode_concat content init r)]
    exact isBlankLine_nil

/-- Behind blanks, a record that was appended is where to resume from. Behind anything else, the
sentinel is. -/
theorem cursor_append_encode_singleton (content : List UInt8) (r : LogRecord) :
    cursor (content ++ encode [r]) =
      if IsBlankLine (openTail content) then
        (Timestamp.read? r.timestamp).getD LogRecord.sentinel
      else LogRecord.sentinel := by
  have hread : LogRecord.ofLine? (Text.trimChars (Utf8.decodeLossyChars
      (openTail content ++ lineBytes r))) =
      if IsBlankLine (openTail content) then some r else none :=
    readLine?_append_lineBytes _ r
  rw [cursor, lastLine, encode_cons, encode_nil, lastLineBytes_append_lineBytes,
    Utf8.decodeLossy, String.toList_ofList, hread]
  by_cases h : IsBlankLine (openTail content)
  · rw [if_pos h, if_pos h]
  · rw [if_neg h, if_neg h]

/-- Behind blanks, the last record that was appended is where to resume from. -/
theorem cursor_append_encode_concat {content : List UInt8} (h : IsBlankLine (openTail content))
    (records : List LogRecord) (r : LogRecord) :
    cursor (content ++ encode (records ++ [r])) =
      (Timestamp.read? r.timestamp).getD LogRecord.sentinel := by
  rw [encode_append, ← List.append_assoc, cursor_append_encode_singleton,
    if_pos (isBlankLine_openTail_append_encode h records)]

/-! ## Resuming -/

/-- A file from which the work goes on behind records: the moment to resume from is that of the
last of them, and they are the last lines of the file, one line each. -/
structure ResumesBehind (fs : Files) (path : String) (records : List LogRecord) : Prop where
  cursor : ∃ last ∈ records.getLast?, ∃ since, readCursor fs path = .ok since ∧
    since.text = last.timestamp
  lines : ∃ content, fs.read path = .ok content ∧ EndsWith content records

/-- The timestamps of the records are those of moments with four digits for the year. -/
def AreStamped (records : List LogRecord) : Prop :=
  ∀ r ∈ records, ∃ t : Timestamp, t.IsShowable ∧ r.timestamp = t.text

theorem endsWith_of_resumesBehind {fs : Files} {path : String} {content : List UInt8}
    {records : List LogRecord} (hread : fs.read path = .ok content)
    (h : ResumesBehind fs path records) : EndsWith content records := by
  obtain ⟨content', hread', hends⟩ := h.lines
  obtain rfl := Except.ok.inj (hread.symm.trans hread')
  exact hends

theorem exists_appendRecords {fs : Files} {path : String} {content : List UInt8}
    (h : fs.read path = .ok content) (records : List LogRecord) :
    ∃ fs', appendRecords fs path records = .ok fs' ∧
      fs'.read path = .ok (content ++ encode records) := by
  refine ⟨_, ?_, Files.read_put h⟩
  rw [appendRecords, Files.append_of_read h]

/-- Records can be appended to every file, whatever its bytes are. The file then resumes behind
them exactly when nothing but blanks stood behind its last line end. -/
theorem appendRecords_resumesBehind_iff {fs : Files} {path : String} {content : List UInt8}
    {records : List LogRecord} (hread : fs.read path = .ok content) (hne : records ≠ [])
    (hstamped : AreStamped records) :
    ∃ fs', appendRecords fs path records = .ok fs' ∧
      (ResumesBehind fs' path records ↔ IsBlankLine (openTail content)) := by
  obtain ⟨fs', happend, hread'⟩ := exists_appendRecords hread records
  refine ⟨fs', happend, fun h ↦ ?_, fun hblank ↦ ⟨?_, _, hread', ?_⟩⟩
  · have hends := endsWith_of_resumesBehind hread' h
    obtain ⟨r, rest, rfl⟩ := List.exists_cons_of_ne_nil hne
    exact (endsWith_append_encode_iff content r rest).1 hends
  · obtain ⟨init, last, rfl⟩ := (List.eq_nil_or_concat' records).resolve_left hne
    obtain ⟨t, hshowable, hstamp⟩ := hstamped last List.mem_concat_self
    refine ⟨last, List.getLast?_concat, t.truncated, ?_, ?_⟩
    · rw [readCursor, hread', Except.map, cursor_append_encode_concat hblank, hstamp,
        Timestamp.read?_text hshowable, Option.getD_some]
    · rw [Timestamp.text_truncated, hstamp]
  · obtain ⟨r, rest, rfl⟩ := List.exists_cons_of_ne_nil hne
    exact (endsWith_append_encode_iff content r rest).2 hblank

/-! ### A line without its end -/

/-- The moment of an event in the evening of a day, and the record of it. -/
def eveningMoment : Timestamp := ⟨1717682482, 513000000⟩

def eveningRecord : LogRecord := ⟨eveningMoment.text, "m", "e", "one"⟩

def nextRecord : LogRecord := ⟨(⟨1717682700, 250000000⟩ : Timestamp).text, "m", "e", "two"⟩

/-- A log file with bytes in it. -/
def filesWith (content : List UInt8) : Files := Files.empty.put ["a.log"] (.file content)

theorem read_filesWith (content : List UInt8) :
    (filesWith content).read "a.log" = .ok content := Files.read_eq_ok.2 ⟨rfl, rfl⟩

theorem areStamped_nextRecord : AreStamped [nextRecord] := by
  intro r hr
  obtain rfl := List.mem_singleton.1 hr
  exact ⟨_, ⟨by decide, by decide, by decide, by decide⟩, rfl⟩

/-- Behind a line that was ended, and a stretch of blanks, the file resumes. -/
theorem appendRecords_resumesBehind_blanks :
    ∃ fs', appendRecords (filesWith (encode [eveningRecord] ++ [32, 9])) "a.log" [nextRecord] =
      .ok fs' ∧ ResumesBehind fs' "a.log" [nextRecord] := by
  obtain ⟨fs', happend, hiff⟩ := appendRecords_resumesBehind_iff
    (read_filesWith (encode [eveningRecord] ++ [32, 9])) (List.cons_ne_nil nextRecord [])
    areStamped_nextRecord
  refine ⟨fs', happend, hiff.2 ?_⟩
  have hstretch : ∀ b ∈ [(32 : UInt8), 9], isLineEnd b = false :=
    List.forall_mem_cons.2 ⟨by decide, List.forall_mem_singleton.2 (by decide)⟩
  rw [openTail_append (isTerminated_encode [eveningRecord]) hstretch]
  decide +kernel

/-- Behind a record that was written whole, but for its line end, the file does not resume: the
next record is lost with it. -/
theorem not_resumesBehind_of_torn :
    ∃ fs', appendRecords (filesWith (lineBytes eveningRecord)) "a.log" [nextRecord] = .ok fs' ∧
      readCursor fs' "a.log" = .ok LogRecord.sentinel ∧
      ¬ ResumesBehind fs' "a.log" [nextRecord] := by
  have hblank : ¬ IsBlankLine (openTail (lineBytes eveningRecord)) := by
    rw [openTail_lineBytes]
    exact not_isBlankLine_lineBytes eveningRecord
  obtain ⟨fs', happend, hread⟩ :=
    exists_appendRecords (read_filesWith (lineBytes eveningRecord)) [nextRecord]
  refine ⟨fs', happend, ?_, fun h ↦ ?_⟩
  · rw [readCursor, hread, Except.map, cursor_append_encode_singleton, if_neg hblank]
  · exact hblank ((endsWith_append_encode_iff _ _ _).1 (endsWith_of_resumesBehind hread h))

end Telemetry.LogFile
