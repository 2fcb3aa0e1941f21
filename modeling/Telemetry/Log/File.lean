import Telemetry.Error
import Telemetry.Files
import Telemetry.Log.Record

/-!
# The local log file

The file that the events are appended to, one line each. Where to resume is not kept anywhere
else: it is the timestamp of the last line, which is found by going backwards from the end of the
file one byte at a time.
-/

namespace Telemetry

namespace LogFile

/-- A byte that ends a line. -/
def isLineEnd (b : UInt8) : Bool := b = 10 || b = 13

/-- Goes through bytes from the last to the first, and stops at the terminator before the last
line that is not empty. The result is that line and the number of bytes looked at; `line` and
`looked` are those so far. -/
def scanBack (line : List UInt8) (looked : Nat) : List UInt8 → List UInt8 × Nat
  | [] => (line, looked)
  | b :: rest =>
    if isLineEnd b then
      if line.isEmpty then scanBack [] (looked + 1) rest else (line, looked + 1)
    else scanBack (b :: line) (looked + 1) rest

/-- The bytes of the last line that is not empty. -/
def lastLineBytes (content : List UInt8) : List UInt8 := (scanBack [] 0 content.reverse).1

/-- The last line that is not empty; the empty text when there is none. -/
def lastLine (content : List UInt8) : String := Utf8.decodeLossy (lastLineBytes content)

/-- The moment to resume from: that of the last line, or the sentinel when the line is no record
or its timestamp cannot be read. -/
def cursor (content : List UInt8) : Timestamp :=
  match LogRecord.ofLine? (Text.trimChars (lastLine content).toList) with
  | some record => (Timestamp.read? record.timestamp).getD LogRecord.sentinel
  | none => LogRecord.sentinel

/-- The bytes of records, a line each. -/
def encode (records : List LogRecord) : List UInt8 :=
  Utf8.encodeChars (records.flatMap fun r => r.line ++ ['\n'])

end LogFile

/-- Why a cycle of log tailing fails. -/
inductive TailError where
  | file (path : String) (cause : FileError)
  | query (error : DbError)
  deriving DecidableEq, Repr

namespace TailError

/-- The text of an error. -/
def message : TailError → String
  | .file path cause => "log file " ++ path ++ ": " ++ cause.message
  | .query error => "event query failed: " ++ error.message

/-- Only failures of the query count towards giving up on a target. -/
def isQueryFailure : TailError → Bool
  | .query _ => true
  | .file .. => false

end TailError

namespace LogFile

/-- The moment to resume from, of the file at a path. -/
def readCursor (fs : Files) (path : String) : Except FileError Timestamp :=
  (fs.read path).map cursor

/-- Appends records to the file at a path. -/
def appendRecords (fs : Files) (path : String) (records : List LogRecord) :
    Except TailError Files :=
  match fs.append path (encode records) with
  | .ok fs => .ok fs
  | .error cause => .error (.file path cause)

end LogFile

end Telemetry
