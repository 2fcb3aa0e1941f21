import Telemetry.Proofs.Log.Resume

/-!
# What is written for records

The texts of a record may hold line feeds, carriage returns and quotes. Its line holds none of them
as they are, so cutting what is written at its line feeds gives back one line for each record and
nothing else (`splitOn_encode`). As no carriage return is written either, the backward scan, which
stops at both, finds the same last line (`lastLine_append_encode_concat`).
-/

namespace Telemetry.LogFile

/-! ## Lines -/

/-- Between line feeds stands one line for each record. Nothing stands behind the last one. -/
theorem splitOn_encode (records : List LogRecord) :
    (encode records).splitOn 10 = records.map lineBytes ++ [[]] := by
  induction records with
  | nil => rfl
  | cons r records ih =>
    have hmem : (10 : UInt8) ∉ lineBytes r := fun h ↦
      absurd (not_isLineEnd_of_mem_lineBytes h) (by decide)
    rw [encode_cons, List.splitOn_append_cons_self_of_not_mem hmem, ih, List.map_cons,
      List.cons_append]

/-- The only line ends that are written are line feeds. -/
theorem eq_lineFeed_of_mem_encode {records : List LogRecord} {b : UInt8}
    (h : b ∈ encode records) (hend : isLineEnd b = true) : b = 10 := by
  induction records with
  | nil => exact absurd h List.not_mem_nil
  | cons r records ih =>
    rw [encode_cons, List.mem_append, List.mem_cons] at h
    rcases h with h | rfl | h
    · rw [not_isLineEnd_of_mem_lineBytes h] at hend
      exact absurd hend Bool.false_ne_true
    · rfl
    · exact ih h

/-- Behind lines that are ended, the line that is found from the end is that of the last record. -/
theorem lastLine_append_encode_concat {content : List UInt8} (h : IsTerminated content)
    (records : List LogRecord) (r : LogRecord) :
    lastLine (content ++ encode (records ++ [r])) = String.ofList r.line := by
  have hclosed : openTail (content ++ encode records) = [] := by
    rcases List.eq_nil_or_concat' records with rfl | ⟨init, last, rfl⟩
    · rw [encode_nil, List.append_nil, openTail_of_isTerminated h]
    · exact openTail_of_isTerminated (isTerminated_append_encode_concat content init last)
  rw [lastLine, encode_append, encode_cons, encode_nil, ← List.append_assoc,
    lastLineBytes_append_lineBytes, hclosed, List.nil_append, lineBytes, Utf8.decodeLossy,
    Utf8.decodeLossyChars_encodeChars]

/-! ## Appending -/

/-- The bytes are the lines of the records: one line each, none of them empty, with a line feed
behind each and no carriage return anywhere. Line by line, they are read back as the records. -/
structure AreLinesOf (bytes : List UInt8) (records : List LogRecord) : Prop where
  pieces : bytes.splitOn 10 = records.map lineBytes ++ [[]]
  lines_ne_nil : ∀ line ∈ records.map lineBytes, line ≠ []
  no_return : 13 ∉ bytes
  decoded : decode? bytes = some records

theorem areLinesOf_encode (records : List LogRecord) : AreLinesOf (encode records) records where
  pieces := splitOn_encode records
  lines_ne_nil := List.forall_mem_map.2 fun r _ ↦ lineBytes_ne_nil r
  no_return h := absurd (eq_lineFeed_of_mem_encode h (by decide)) (by decide)
  decoded := decode?_encode records

/-- Records can be appended to every file. What is added are their lines, whatever their texts hold.
When the lines before were ended, the last line of the file is the line of the last record. -/
theorem appendRecords_writesLines {fs : Files} {path : String} {content : List UInt8}
    (hread : fs.read path = .ok content) (records : List LogRecord) :
    ∃ fs' written, appendRecords fs path records = .ok fs' ∧
      fs'.read path = .ok (content ++ written) ∧ AreLinesOf written records ∧
      (IsTerminated content → ∀ last ∈ records.getLast?,
        (fs'.read path).map lastLine = .ok (String.ofList last.line)) := by
  obtain ⟨fs', happend, hread'⟩ := exists_appendRecords hread records
  refine ⟨fs', encode records, happend, hread', areLinesOf_encode records, ?_⟩
  intro hterminated last hlast
  obtain ⟨init, rfl⟩ := List.getLast?_eq_some_iff.1 hlast
  rw [hread', Except.map, lastLine_append_encode_concat hterminated]

/-- A record with line ends, quotes and a zero character in its texts. -/
def tangledRecord : LogRecord := ⟨"\r", "\n\n", "\x00\"\\", "one\r\ntwo\n"⟩

/-- Behind a carriage return, its line is the last one of the file. -/
theorem appendRecords_writesLines_tangled :
    ∃ fs' written,
      appendRecords (filesWith [65, 13]) "a.log" [eveningRecord, tangledRecord] = .ok fs' ∧
      fs'.read "a.log" = .ok ([65, 13] ++ written) ∧
      AreLinesOf written [eveningRecord, tangledRecord] ∧
      (fs'.read "a.log").map lastLine = .ok (String.ofList tangledRecord.line) := by
  obtain ⟨fs', written, happend, hread, hlines, hlast⟩ := appendRecords_writesLines
    (read_filesWith [65, 13]) [eveningRecord, tangledRecord]
  exact ⟨fs', written, happend, hread, hlines, hlast (.inr ⟨[65], 13, rfl, rfl⟩) tangledRecord rfl⟩

end Telemetry.LogFile
