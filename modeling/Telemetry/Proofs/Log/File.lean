import Telemetry.Log.File
import Telemetry.Proofs.Files
import Telemetry.Proofs.Log.Record

/-!
# The file as a list of records

The forward reading of a log file, against which its backward scan and its appending are stated: a
file is a sequence of lines, each with a line feed at its end, and each line holds a record.

* `LogFile.decode?` reads a file this way, and reads back what was written (`decode?_encode`).
* The backward scan finds the line that was written last (`lastLineBytes_append_line`), so the
  cursor is the timestamp of the last record (`cursor_encode_concat`).
-/

namespace Telemetry.LogFile

/-! ## Writing -/

/-- The bytes of the line of a record, without its terminator. -/
def lineBytes (r : LogRecord) : List UInt8 := Utf8.encodeChars r.line

theorem encode_nil : encode [] = [] := rfl

theorem encode_cons (r : LogRecord) (records : List LogRecord) :
    encode (r :: records) = lineBytes r ++ 10 :: encode records := by
  rw [encode, List.flatMap_cons, Utf8.encodeChars_append, Utf8.encodeChars_append,
    List.append_assoc]
  rfl

theorem encode_append (first second : List LogRecord) :
    encode (first ++ second) = encode first ++ encode second := by
  rw [encode, List.flatMap_append, Utf8.encodeChars_append]
  rfl

/-- No byte of a line ends a line. -/
theorem not_isLineEnd_of_mem_lineBytes {r : LogRecord} {b : UInt8} (h : b ∈ lineBytes r) :
    isLineEnd b = false := by
  refine Bool.eq_false_iff.2 fun hend ↦ ?_
  rw [isLineEnd, Bool.or_eq_true, decide_eq_true_eq, decide_eq_true_eq] at hend
  have hsmall : b.toNat < 0x20 := by rcases hend with rfl | rfl <;> decide
  obtain ⟨c, hc, hvalue⟩ := Utf8.exists_mem_of_mem_encodeChars h (Nat.lt_trans hsmall (by decide))
  exact LogRecord.not_control_of_mem_line hc (hvalue ▸ hsmall)

theorem lineBytes_ne_nil (r : LogRecord) : lineBytes r ≠ [] := by
  rw [lineBytes, LogRecord.line_eq, Utf8.encodeChars, List.flatMap_cons]
  exact List.append_ne_nil_of_left_ne_nil String.utf8EncodeChar_ne_nil _

/-! ## Reading forward -/

/-- The record that a line holds. -/
def recordOfLine? (line : List UInt8) : Option LogRecord :=
  match Utf8.decode line with
  | .ok text => LogRecord.ofLine? text.toList
  | .error _ => none

/-- The records of the pieces between line feeds. Nothing stands behind the last line feed. -/
def recordsOfPieces? : List (List UInt8) → Option (List LogRecord)
  | [] => none
  | [last] => if last.isEmpty then some [] else none
  | line :: rest => do return (← recordOfLine? line) :: (← recordsOfPieces? rest)

/-- The records of a file, line by line; none when some line is no record, or the last one has no
line feed. -/
def decode? (content : List UInt8) : Option (List LogRecord) :=
  recordsOfPieces? (content.splitOn 10)

theorem recordOfLine?_lineBytes (r : LogRecord) : recordOfLine? (lineBytes r) = some r := by
  rw [recordOfLine?, lineBytes, Utf8.decode_encodeChars]
  dsimp only
  rw [String.toList_ofList, LogRecord.ofLine?_line]

theorem decode?_line_append (r : LogRecord) (content : List UInt8) :
    decode? (lineBytes r ++ 10 :: content) = (decode? content).map (r :: ·) := by
  have hmem : (10 : UInt8) ∉ lineBytes r := fun h ↦
    absurd (not_isLineEnd_of_mem_lineBytes h) (by decide)
  rw [decode?, decode?, List.splitOn_append_cons_self_of_not_mem hmem]
  cases hpieces : content.splitOn 10 with
  | nil => exact absurd hpieces (List.splitOn_ne_nil _ _)
  | cons piece rest =>
    rw [recordsOfPieces?, recordOfLine?_lineBytes]
    · cases recordsOfPieces? (piece :: rest) <;> rfl
    · exact List.cons_ne_nil _ _

/-- What was written is read back, in the same order. -/
theorem decode?_encode (records : List LogRecord) : decode? (encode records) = some records := by
  induction records with
  | nil => rfl
  | cons r records ih => rw [encode_cons, decode?_line_append, ih, Option.map_some]

/-! ## Reading backward -/

/-- The scan takes a stretch without a line end whole. -/
theorem scanBack_append {stretch : List UInt8} (h : ∀ b ∈ stretch, isLineEnd b = false)
    (line rest : List UInt8) (looked : Nat) :
    scanBack line looked (stretch ++ rest) =
      scanBack (stretch.reverse ++ line) (looked + stretch.length) rest := by
  induction stretch generalizing line looked with
  | nil => rfl
  | cons b stretch ih =>
    have hb : ¬ isLineEnd b = true := by rw [h b List.mem_cons_self]; decide
    rw [List.cons_append, scanBack, if_neg hb, ih fun b hb ↦ h b (List.mem_cons_of_mem _ hb),
      List.reverse_cons, List.append_assoc, List.singleton_append, List.length_cons,
      Nat.add_assoc, Nat.add_comm 1]

/-- Nothing, or something that ends with the end of a line. -/
def IsTerminated (content : List UInt8) : Prop :=
  content = [] ∨ ∃ before b, content = before ++ [b] ∧ isLineEnd b = true

/-- The scan stops where the last line begins. -/
theorem lastLineBytes_append_line {before line : List UInt8} (hbefore : IsTerminated before)
    (hne : line ≠ []) (hline : ∀ b ∈ line, isLineEnd b = false) :
    lastLineBytes (before ++ line ++ [10]) = line := by
  have hempty : ¬ line.isEmpty = true := by rwa [List.isEmpty_iff]
  have hreverse : ∀ b ∈ line.reverse, isLineEnd b = false := fun b hb ↦
    hline b (List.mem_reverse.1 hb)
  -- The line feed at the end is passed over, because no byte of a line was found by then.
  rw [lastLineBytes, List.reverse_append, List.reverse_append, List.reverse_singleton,
    List.singleton_append, scanBack, if_pos (by decide), if_pos (by decide),
    scanBack_append hreverse,
    List.reverse_reverse, List.append_nil]
  rcases hbefore with rfl | ⟨before, b, rfl, hb⟩
  · rfl
  · rw [List.reverse_concat, scanBack, if_pos hb, if_neg hempty]

theorem isTerminated_encode (records : List LogRecord) : IsTerminated (encode records) := by
  rcases List.eq_nil_or_concat records with rfl | ⟨init, last, rfl⟩
  · exact .inl rfl
  · rw [List.concat_eq_append]
    refine .inr ⟨encode init ++ lineBytes last, 10, ?_, rfl⟩
    rw [encode_append, encode_cons, encode_nil, List.append_assoc]

theorem lastLineBytes_encode_concat (records : List LogRecord) (r : LogRecord) :
    lastLineBytes (encode (records ++ [r])) = lineBytes r := by
  rw [encode_append, encode_cons, encode_nil, ← List.append_assoc]
  exact lastLineBytes_append_line (isTerminated_encode records) (lineBytes_ne_nil r)
    fun _ ↦ not_isLineEnd_of_mem_lineBytes

/-! ## The cursor -/

theorem cursor_nil : cursor [] = LogRecord.sentinel := by
  have hline : lastLine [] = String.ofList [] :=
    congrArg String.ofList (Utf8.decodeLossyChars_encodeChars [])
  rw [cursor, hline, String.toList_ofList]
  rfl

/-- Where to resume is the timestamp of the last record. -/
theorem cursor_encode_concat (records : List LogRecord) (r : LogRecord) :
    cursor (encode (records ++ [r])) = (Timestamp.read? r.timestamp).getD LogRecord.sentinel := by
  rw [cursor, lastLine, lastLineBytes_encode_concat, lineBytes, Utf8.decodeLossy,
    Utf8.decodeLossyChars_encodeChars, String.toList_ofList, LogRecord.trimChars_line,
    LogRecord.ofLine?_line]

end Telemetry.LogFile
