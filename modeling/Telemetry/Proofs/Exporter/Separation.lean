import Telemetry.Proofs.Exporter.Failures
import Telemetry.Proofs.Files.Apart
import Telemetry.Proofs.Log.Replication
import Telemetry.Proofs.Settings.Destinations
import Telemetry.Proofs.Settings.Keys

/-!
# Tailing one target leaves the others alone

With settings that pass their check, different targets have different destinations, and the cycles
of some targets change neither the log file of another one, nor the moment that it resumes from, nor
the count of its failures (`Settings.tails_apart`).

## What carries it

All that cycles do to the files is to make sure of the log files of their targets and to append to
them (`Tail.Writes`), and one such step is not noticed by a path that has nothing to do with those
files (`Files.alike_ensure`, `Files.alike_append`). The cycles of several targets take turns: while
one of them waits, the others write. So what happens during a cycle is again of that kind
(`Meanwhile.Writes`), and the steps of all cycles make one sequence of writes.

Whether different destinations are different files is not for the settings to say: `logs/a` and
`logs/./a` are one file, and `logs/a/b` is none once `logs/a` is. So that they are is asked for where
files come in (`LogSettings.IdentifiesFiles`), and only there.
-/

namespace Telemetry

/-- Different destinations lead to files that have nothing to do with each other. -/
def LogSettings.IdentifiesFiles (log : LogSettings) (names : List String) : Prop :=
  ∀ name ∈ names, ∀ other ∈ names, log.destinationFor name ≠ log.destinationFor other →
    Files.Apart (log.destinationFor name) (log.destinationFor other)

instance (log : LogSettings) (names : List String) : Decidable (log.IdentifiesFiles names) :=
  inferInstanceAs (Decidable (∀ name ∈ names, ∀ other ∈ names,
    log.destinationFor name ≠ log.destinationFor other →
      Files.Apart (log.destinationFor name) (log.destinationFor other)))

namespace Tail

variable {σ : Type} {server : Clocked σ} {limits : ConnectionLimits} {log : LogSettings}
  {names : List String}

/-! ## What cycles do to the files -/

/-- What cycles for some targets can do to the files: they make sure of the logs of these targets,
and append to them. -/
inductive Writes (log : LogSettings) (names : List String) (fs : Files) : Files → Prop
  | refl : Writes log names fs fs
  | ensure {fs' : Files} {name : String} (writes : Writes log names fs fs') (mem : name ∈ names) :
      Writes log names fs (fs'.ensure (log.destinationFor name)).2
  | append {fs' fs'' : Files} {name : String} {bytes : List UInt8}
      (writes : Writes log names fs fs') (mem : name ∈ names)
      (appended : fs'.append (log.destinationFor name) bytes = .ok fs'') : Writes log names fs fs''

theorem Writes.trans {fs₁ fs₂ fs₃ : Files} (h₁ : Writes log names fs₁ fs₂)
    (h₂ : Writes log names fs₂ fs₃) : Writes log names fs₁ fs₃ := by
  induction h₂ with
  | refl => exact h₁
  | ensure _ hmem ih => exact ih.ensure hmem
  | append _ hmem happend ih => exact ih.append hmem happend

/-- A path that has nothing to do with the log files does not notice. -/
theorem Writes.alike {fs fs' : Files} {path : String} (h : Writes log names fs fs')
    (hapart : ∀ name ∈ names, Files.Apart (log.destinationFor name) path) :
    Files.Alike path fs fs' := by
  induction h with
  | refl => exact .refl path fs
  | ensure _ hmem ih => exact ih.trans (Files.alike_ensure (hapart _ hmem))
  | append _ hmem happend ih => exact ih.trans (Files.alike_append (hapart _ hmem) happend)

end Tail

/-- All that others do to the files during a cycle is what cycles for some targets do. -/
structure Meanwhile.Writes {σ : Type} (log : LogSettings) (names : List String)
    (meanwhile : Meanwhile σ) : Prop where
  atCheck : ∀ fs, Tail.Writes log names fs (meanwhile.filesAtCheck fs)
  atReply : ∀ fs, Tail.Writes log names fs (meanwhile.filesAtReply fs)

theorem Meanwhile.writes_nothing {σ : Type} (log : LogSettings) (names : List String) :
    (Meanwhile.nothing (σ := σ)).Writes log names :=
  ⟨fun _ ↦ .refl, fun _ ↦ .refl⟩

namespace Tail

variable {σ : Type} {server : Clocked σ} {limits : ConnectionLimits} {log : LogSettings}
  {names : List String} {meanwhile : Meanwhile σ}

theorem writes_store {name : String} (hname : name ∈ names) (fs : Files) (since : Timestamp)
    (rows : List Row) :
    Writes log names fs (store fs (log.destinationFor name) since rows).2 := by
  rw [store]
  split
  · exact .refl
  · rw [LogFile.appendRecords]
    cases happend : fs.append (log.destinationFor name)
        (LogFile.encode (LogRecord.newer rows since)) with
    | error cause => exact .refl
    | ok fs' => exact Writes.refl.append hname happend

theorem writes_askAmid (server : Clocked σ) (limits : ConnectionLimits) {c : Connection σ}
    (hmeanwhile : meanwhile.Writes log names) (hname : c.target.name ∈ names) (state : TailState)
    (fs : Files) (now : Instant) :
    Writes log names fs (askAmid server limits log meanwhile state fs now c).files := by
  rw [askAmid]
  split
  · exact .refl
  · dsimp only
    have hcheck := hmeanwhile.atCheck fs
    cases (c.check server limits now).result with
    | healthy =>
      have hfiles := (asksFromFile_resume server log (meanwhile.filesAtCheck fs)
        (c.check server limits now).now
        (meanwhile.connection (c.check server limits now).connection)).files
      rw [target_check_meanwhile] at hfiles
      dsimp only
      rcases hfiles with hfiles | hfiles
      · rw [hfiles]
        exact hcheck
      · rw [hfiles]
        exact hcheck.ensure hname
    | down => exact hcheck
    | invalid => exact hcheck

/-- What the files are after a cycle that got rows. -/
theorem files_cycleAmid_of_rows {state : TailState} {fs : Files} {now : Instant} {c : Connection σ}
    {since : Timestamp} {rows : List Row}
    (h : (askAmid server limits log meanwhile state fs now c).answer = .ok (since, rows)) :
    (cycleAmid server limits log meanwhile state fs now c).files =
      (store (meanwhile.filesAtReply (askAmid server limits log meanwhile state fs now c).files)
        (log.destinationFor c.target.name) since rows).2 := by
  rw [cycleAmid]
  dsimp only
  rw [h]

/-- A cycle writes to the log of its target, and others write meanwhile. -/
theorem writes_cycleAmid {c : Connection σ} (hmeanwhile : meanwhile.Writes log names)
    (hname : c.target.name ∈ names) (state : TailState) (fs : Files) (now : Instant) :
    Writes log names fs (cycleAmid server limits log meanwhile state fs now c).files := by
  have hasked := writes_askAmid server limits hmeanwhile hname state fs now
  cases hanswer : (askAmid server limits log meanwhile state fs now c).answer with
  | error outcome =>
    rw [cycleAmid]
    dsimp only
    rw [hanswer]
    exact hasked
  | ok found =>
    rw [files_cycleAmid_of_rows hanswer]
    exact (hasked.trans (hmeanwhile.atReply _)).trans (writes_store hname _ _ _)

theorem resumePoint_eq_ok_iff {path : String} {fs : Files} {since : Timestamp} :
    (resumePoint fs path).1 = .ok since ↔ (fs.ensure path).1 = .ok () ∧
      ∃ content, (fs.ensure path).2.read path = .ok content ∧ LogFile.cursor content = since := by
  rw [resumePoint]
  rcases fs.ensure path with ⟨result, fs'⟩
  cases result with
  | error cause =>
    refine iff_of_false (fun h ↦ ?_) fun h ↦ ?_
    · cases h
    · cases h.1
  | ok _ =>
    dsimp only
    rw [LogFile.readCursor, map_eq_ok_iff]
    exact (and_iff_right rfl).symm

/-- Two trees that the path of a log file cannot tell apart give the same moment to resume from. -/
theorem resumePoint_of_alike {path : String} {fs fs' : Files} {since : Timestamp}
    (halike : Files.Alike path fs fs') (h : (resumePoint fs path).1 = .ok since) :
    (resumePoint fs' path).1 = .ok since := by
  obtain ⟨-, content, hread, hcursor⟩ := resumePoint_eq_ok_iff.1 h
  obtain ⟨hok, hread'⟩ := halike.read_ensure hread
  exact resumePoint_eq_ok_iff.2 ⟨hok, content, hread', hcursor⟩

end Tail

/-! ## Runs -/

namespace Monitor

open Tail

variable {σ : Type} {server : Clocked σ} {settings : ExporterSettings} {names : List String}
  {m₀ m m' : Monitor σ} {target : String}

/-- A run from a state in which all cycles of log tailing are for some targets. While a cycle waits,
cycles for these targets may write. In between anything may happen that is no log tailing. -/
inductive Tailed (server : Clocked σ) (settings : ExporterSettings) (names : List String)
    (m₀ : Monitor σ) : Monitor σ → Prop
  | refl : Tailed server settings names m₀ m₀
  | between {m m' : Monitor σ} (run : Tailed server settings names m₀ m) (tails : m'.tails = m.tails)
      (files : m'.files = m.files) : Tailed server settings names m₀ m'
  | cycle {m : Monitor σ} {name : String} {meanwhile : Meanwhile σ}
      (run : Tailed server settings names m₀ m) (mem : name ∈ names)
      (writes : meanwhile.Writes settings.log names) :
      Tailed server settings names m₀ (m.tailAmid server settings name meanwhile)

theorem writes_tailAmid {name : String} {meanwhile : Meanwhile σ} (hname : name ∈ names)
    (hwrites : meanwhile.Writes settings.log names) (m : Monitor σ) :
    Tail.Writes settings.log names m.files (m.tailAmid server settings name meanwhile).files := by
  rw [tailAmid]
  cases hfound : m.connection? name with
  | none => exact .refl
  | some c => exact writes_cycleAmid hwrites (name_of_connection? hfound ▸ hname) _ _ _

/-- A run goes on with a cycle of the exporter. -/
theorem Tailed.tail {name : String} (h : Tailed server settings names m₀ m) (hname : name ∈ names) :
    Tailed server settings names m₀ (m.tail server settings name).2 := by
  rw [← tailAmid_nothing]
  exact h.cycle hname (Meanwhile.writes_nothing settings.log names)

theorem Tailed.writes (h : Tailed server settings names m₀ m) :
    Tail.Writes settings.log names m₀.files m.files := by
  induction h with
  | refl => exact .refl
  | between _ _ hfiles ih =>
    rw [hfiles]
    exact ih
  | cycle _ hmem hwrites ih => exact ih.trans (writes_tailAmid hmem hwrites _)

theorem Tailed.tailState_eq (h : Tailed server settings names m₀ m) (hnot : target ∉ names) :
    m.tailState target = m₀.tailState target := by
  induction h with
  | refl => rfl
  | between _ htails _ ih => rw [tailState, htails, ← tailState, ih]
  | @cycle m name meanwhile _ hmem _ ih =>
    have hne : name ≠ target := fun heq ↦ hnot (heq ▸ hmem)
    exact (tailState_tailAmid_of_ne hne m meanwhile).trans ih

/-- What a target has of its log tailing is the same as before: the count of its failures and
whether it was given up, the log file, and the moment that a cycle would resume from. -/
structure SparesTailing (log : LogSettings) (target : String) (m m' : Monitor σ) : Prop where
  state : m'.tailState target = m.tailState target
  file : m'.files.at? (Files.namedPlace (log.destinationFor target)) =
    m.files.at? (Files.namedPlace (log.destinationFor target))
  since : ∀ since, (resumePoint m'.files (log.destinationFor target)).1 = .ok since ↔
    (resumePoint m.files (log.destinationFor target)).1 = .ok since

theorem Tailed.sparesTailing (h : Tailed server settings names m₀ m) (hnot : target ∉ names)
    (hapart : ∀ name ∈ names, Files.Apart (settings.log.destinationFor name)
      (settings.log.destinationFor target)) : SparesTailing settings.log target m₀ m := by
  have halike := h.writes.alike hapart
  exact ⟨h.tailState_eq hnot, halike.log,
    fun since ↦ ⟨resumePoint_of_alike halike.symm, resumePoint_of_alike halike⟩⟩

end Monitor

/-- With settings that pass their check and tail logs, different targets have different
destinations. Where these are different files, cycles of log tailing for some targets leave every
other target with its log file, the moment to resume from and the count of its failures, however the
cycles take turns and whatever comes of them. -/
theorem Settings.tails_apart {s : Settings} (hcheck : s.check = .ok ())
    (henabled : s.log.enabled = true) :
    (∀ name ∈ s.targets.map (·.1), ∀ other ∈ s.targets.map (·.1), name ≠ other →
      s.log.destinationFor name ≠ s.log.destinationFor other) ∧
    (s.log.IdentifiesFiles (s.targets.map (·.1)) →
      ∀ target ∈ s.targets.map (·.1), ∀ others ⊆ s.targets.map (·.1), target ∉ others →
        ∀ {σ : Type} (server : Clocked σ) (m m' : Monitor σ),
          Monitor.Tailed server (.ofSettings s) others m m' →
            Monitor.SparesTailing s.log target m m') := by
  have hdistinct : ∀ name ∈ s.targets.map (·.1), ∀ other ∈ s.targets.map (·.1), name ≠ other →
      s.log.destinationFor name ≠ s.log.destinationFor other :=
    fun name hname other hother hne ↦ destinationFor_ne hcheck henabled hname hother hne
  refine ⟨hdistinct, fun hfiles target htarget others hothers hnot σ server m m' htailed ↦ ?_⟩
  refine htailed.sparesTailing hnot fun name hname ↦ ?_
  have hne : name ≠ target := fun heq ↦ hnot (heq ▸ hname)
  exact hfiles name (hothers hname) target htarget
    (hdistinct name (hothers hname) target htarget hne)

/-! ### A target whose name is the placeholder

The destination holds the placeholder twice. The log of the other target is there with a record,
and the one of `a` is made by the cycle. -/

def twoTailed : Settings where
  log := { enabled := true, destination := "logs/\x7btarget\x7d-\x7btarget\x7d.log", query := "q" }
  targets := [("a", { url := "db" }), ("\x7btarget\x7d", { url := "db" })]

def filesOfOther : Files :=
  (Files.empty.put ["logs"] .directory).put ["logs", "\x7btarget\x7d-\x7btarget\x7d.log"]
    (.file (LogFile.encode [(Tailing.eventAt 1704067200 0).record]))

def rowsOfA : List Row := [Tailing.rowAt "2024-01-01T00:00:01Z"]

def connectionOfA : Connection Rehearsal :=
  .start Rehearsal.server.steady 0 ⟨"a", { url := "db" }, []⟩ (Tailing.answering rowsOfA)

def beforeTailingA : Monitor Rehearsal :=
  ⟨⟨.start .empty [] [], [connectionOfA], {}, 0⟩, [], filesOfOther⟩

def afterTailingA : Monitor Rehearsal :=
  (beforeTailingA.tail Rehearsal.server.steady (.ofSettings twoTailed) "a").2

theorem newer_rowsOfA : LogRecord.newer rowsOfA LogRecord.sentinel =
    [(Tailing.eventAt 1704067201 0).record] := by
  have hfilter : ((rowsOfA.filterMap LogRecord.ofRow?).filter fun e ↦
      LogRecord.sentinel.millis < e.1.millis) =
      [((Tailing.eventAt 1704067201 0).moment, (Tailing.eventAt 1704067201 0).record)] := by
    decide +kernel
  rw [LogRecord.newer, hfilter, List.mergeSort_singleton]
  rfl

theorem read_afterTailingA : afterTailingA.files.read "logs/a-a.log" =
    .ok (LogFile.encode [(Tailing.eventAt 1704067201 0).record]) := by
  have hasked : (Tail.askAmid Rehearsal.server.steady (ExporterSettings.ofSettings twoTailed).limits
      twoTailed.log .nothing {} filesOfOther 0 connectionOfA).answer =
      .ok (LogRecord.sentinel, rowsOfA) := by
    decide +kernel
  change (Tail.cycleAmid Rehearsal.server.steady (ExporterSettings.ofSettings twoTailed).limits
    twoTailed.log .nothing {} filesOfOther 0 connectionOfA).files.read _ = _
  rw [Tail.files_cycleAmid_of_rows hasked, Tail.store, newer_rowsOfA]
  decide +kernel

theorem Settings.tails_apart_placeholder :
    twoTailed.check = .ok () ∧ twoTailed.log.enabled = true ∧
      twoTailed.log.IdentifiesFiles (twoTailed.targets.map (·.1)) ∧
      twoTailed.log.destinationFor "a" ≠ twoTailed.log.destinationFor "\x7btarget\x7d" ∧
      afterTailingA.files.read "logs/a-a.log" =
        .ok (LogFile.encode [(Tailing.eventAt 1704067201 0).record]) ∧
      Monitor.SparesTailing twoTailed.log "\x7btarget\x7d" beforeTailingA afterTailingA := by
  have hcheck : twoTailed.check = .ok () := by decide +kernel
  have hfiles : twoTailed.log.IdentifiesFiles (twoTailed.targets.map (·.1)) := by decide +kernel
  have ha : "a" ∈ twoTailed.targets.map (·.1) := List.mem_cons_self
  have hother : "\x7btarget\x7d" ∈ twoTailed.targets.map (·.1) :=
    List.mem_cons_of_mem _ (List.mem_singleton_self _)
  obtain ⟨hdistinct, hspares⟩ := Settings.tails_apart hcheck rfl
  refine ⟨hcheck, rfl, hfiles, hdistinct _ ha _ hother (by decide), read_afterTailingA, ?_⟩
  exact hspares hfiles _ hother ["a"] (List.cons_subset.2 ⟨ha, List.nil_subset _⟩) (by decide)
    Rehearsal.server.steady _ _ (Monitor.Tailed.refl.tail (List.mem_singleton_self "a"))

end Telemetry
