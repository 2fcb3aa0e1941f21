import Telemetry.Log.Tail
import Telemetry.Proofs.Log.File
import Telemetry.Proofs.Target.Connection

/-!
# What a cycle of log tailing does to the file

Until it appends, a cycle does no more to the files than to make sure of the log file. It comes to
appending only with the moment that the file itself gives to resume from, and then the file grows
by exactly the records that are newer.
-/

namespace Telemetry.Tail

variable {σ : Type} (server : Clocked σ) (limits : ConnectionLimits) (log : LogSettings)

/-! ## Before anything is appended -/

/-- An inquiry that changed nothing but the database, and that asked from the given moment if
rows came. -/
structure AsksFrom (since : Timestamp) (fs : Files) (c : Connection σ) (asked : Inquiry σ) :
    Prop where
  files : asked.files = fs
  target : asked.connection.target = c.target
  since : ∀ since' rows, asked.answer = .ok (since', rows) → since' = since

theorem asksFrom_fetchSince (fs : Files) (since : Timestamp) (now : Instant) (c : Connection σ) :
    AsksFrom since fs c (fetchSince server log fs since now c) := by
  rw [fetchSince]
  cases c.acquire now with
  | error _ => exact ⟨rfl, rfl, nofun⟩
  | ok session =>
    dsimp only
    split
    · exact ⟨rfl, rfl, nofun⟩
    · exact ⟨rfl, rfl, fun since' rows h ↦ (congrArg Prod.fst (Except.ok.inj h)).symm⟩

/-- An inquiry that did no more to the files than to make sure of the log file, and that asked from
the moment which the file gives if rows came. -/
structure AsksFromFile (path : String) (target : Target) (fs : Files) (asked : Inquiry σ) :
    Prop where
  files : asked.files = fs ∨ asked.files = (fs.ensure path).2
  target : asked.connection.target = target
  since : ∀ since rows, asked.answer = .ok (since, rows) →
    ∃ content, asked.files.read path = .ok content ∧ since = LogFile.cursor content

theorem asksFromFile_resume (fs : Files) (now : Instant) (c : Connection σ) :
    AsksFromFile (log.destinationFor c.target.name) c.target fs (resume server log fs now c) := by
  rw [resume]
  rcases hensure : fs.ensure (log.destinationFor c.target.name) with ⟨result, fs₁⟩
  have hfiles : fs₁ = (fs.ensure (log.destinationFor c.target.name)).2 := by rw [hensure]
  cases result with
  | error cause => exact ⟨.inr hfiles, rfl, nofun⟩
  | ok _ =>
    dsimp only
    cases hread : fs₁.read (log.destinationFor c.target.name) with
    | error cause =>
      have hcursor : LogFile.readCursor fs₁ (log.destinationFor c.target.name) = .error cause := by
        rw [LogFile.readCursor, hread, Except.map]
      rw [hcursor]
      exact ⟨.inr hfiles, rfl, nofun⟩
    | ok content =>
      have hcursor : LogFile.readCursor fs₁ (log.destinationFor c.target.name) =
          .ok (LogFile.cursor content) := by
        rw [LogFile.readCursor, hread, Except.map]
      rw [hcursor]
      obtain ⟨hsame, htarget, hsince⟩ :=
        asksFrom_fetchSince server log fs₁ (LogFile.cursor content) now c
      refine ⟨.inr (hsame.trans hfiles), htarget, fun since rows h ↦ ⟨content, ?_, ?_⟩⟩
      · rw [hsame]
        exact hread
      · exact hsince since rows h

theorem asksFromFile_ask (state : TailState) (fs : Files) (now : Instant) (c : Connection σ) :
    AsksFromFile (log.destinationFor c.target.name) c.target fs
      (ask server limits log state fs now c) := by
  have hchecked := Connection.target_check server limits now c
  rw [ask]
  split
  · exact ⟨.inl rfl, rfl, nofun⟩
  · dsimp only
    cases (c.check server limits now).result with
    | healthy =>
      rw [← hchecked]
      exact asksFromFile_resume server log fs _ _
    | down => exact ⟨.inl rfl, hchecked, nofun⟩
    | invalid => exact ⟨.inl rfl, hchecked, nofun⟩

/-- Nothing is asked of the database once there are rows. -/
theorem connection_cycle (state : TailState) (fs : Files) (now : Instant) (c : Connection σ) :
    (cycle server limits log state fs now c).connection =
        (ask server limits log state fs now c).connection ∧
      (cycle server limits log state fs now c).now =
        (ask server limits log state fs now c).now := by
  rw [cycle]
  dsimp only
  split
  · exact ⟨rfl, rfl⟩
  · exact ⟨rfl, rfl⟩

theorem target_cycle (state : TailState) (fs : Files) (now : Instant) (c : Connection σ) :
    (cycle server limits log state fs now c).connection.target = c.target := by
  rw [(connection_cycle server limits log state fs now c).1]
  exact (asksFromFile_ask server limits log state fs now c).target

/-! ## Appending -/

/-- A file that can be read grows by the records that are newer. -/
theorem store_of_read {fs : Files} {path : String} {content : List UInt8}
    (h : fs.read path = .ok content) (since : Timestamp) (rows : List Row) :
    (store fs path since rows).1 = .appended (LogRecord.newer rows since).length ∧
      (store fs path since rows).2.read path =
        .ok (content ++ LogFile.encode (LogRecord.newer rows since)) := by
  rw [store]
  by_cases hempty : (LogRecord.newer rows since).isEmpty = true
  · rw [if_pos hempty, List.isEmpty_iff.1 hempty, LogFile.encode_nil, List.append_nil]
    exact ⟨rfl, h⟩
  · rw [if_neg hempty, LogFile.appendRecords, Files.append_of_read h]
    exact ⟨rfl, Files.read_put h⟩

/-! ## Other files -/

theorem keepsFileAt_store (fs : Files) (path : String) (since : Timestamp) (rows : List Row)
    {place : Place} (hne : place ≠ Files.namedPlace path) :
    Files.KeepsFileAt place fs (store fs path since rows).2 := by
  rw [store]
  split
  · exact .refl place fs
  · rw [LogFile.appendRecords]
    cases happend : fs.append path (LogFile.encode (LogRecord.newer rows since)) with
    | error cause => exact .refl place fs
    | ok fs' => exact Files.keepsFileAt_append happend hne

/-- A cycle changes no file but the log of its target. -/
theorem keepsFileAt_cycle (state : TailState) (fs : Files) (now : Instant) (c : Connection σ)
    {place : Place} (hne : place ≠ Files.namedPlace (log.destinationFor c.target.name)) :
    Files.KeepsFileAt place fs (cycle server limits log state fs now c).files := by
  have hasked : Files.KeepsFileAt place fs (ask server limits log state fs now c).files := by
    rcases (asksFromFile_ask server limits log state fs now c).files with hfiles | hfiles
    · rw [hfiles]
      exact .refl place fs
    · rw [hfiles]
      exact (Files.addsAtMostEmpty_ensure fs _).keepsFileAt hne
  rw [cycle]
  dsimp only
  split
  · exact hasked
  · exact hasked.trans (keepsFileAt_store _ _ _ _ hne)

end Telemetry.Tail
