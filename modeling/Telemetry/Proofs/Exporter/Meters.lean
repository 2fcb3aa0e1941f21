import Mathlib.Algebra.BigOperators.Group.List.Basic
import Mathlib.Algebra.GroupWithZero.Nat
import Telemetry.Proofs.Exporter.Monitor
import Telemetry.Proofs.Log.Faults
import Telemetry.Proofs.Tick.Meters
import Telemetry.Rehearsal

/-!
# What the meters tell of a run

The meters are written at three places: while a tick puts its contributions together, at its end,
and after a cycle of log tailing has appended something. What they tell is a matter of the whole
run: how many ticks there were and what could not be computed in them, what came of the latest one,
and how many records were appended to the log of each target (`Meters.AgreesWith`).

A round, which is a tick or a cycle, adds to the meters what it adds to the run
(`Meters.AgreesWith.tick`, `Meters.AgreesWith.cycle`), so the two agree after every run
(`Monitor.Metered.agrees`), whatever databases answer and whatever fails on the disk. What a cycle
adds is counted in the file itself, and not in what the cycle reports.
-/

namespace Telemetry

/-! ## Rounds -/

/-- The content of the log of a target; none at all when there is no file. -/
def Files.logContent (fs : Files) (path : String) : List UInt8 :=
  (fs.contentAt? (namedPlace path)).getD []

/-- How many lines were added to a log, each with a record. -/
def LogFile.linesAdded (path : String) (before after : Files) : Nat :=
  ((decode? ((after.logContent path).drop (before.logContent path).length)).getD []).length

/-- A round of the work of the exporter: a tick with what it published, or a cycle of log tailing
for a target with the files before and after it. -/
inductive Round where
  | tick (record : TickRecord) (snapshot : Snapshot)
  | cycle (target : String) (before after : Files)

namespace Round

/-- What a tick published. -/
def snapshot? : Round → Option Snapshot
  | .tick _ snapshot => some snapshot
  | .cycle .. => none

/-- The contexts of what a tick could not compute, for all targets. -/
def failures : Round → List String
  | .tick record _ => record.failures
  | .cycle .. => []

/-- A tick replaced the plan. -/
def replacesPlan : Round → Bool
  | .tick record _ => record.reloaded
  | .cycle .. => false

/-- How many records a cycle appended to the log of a target. -/
def linesFor (log : LogSettings) (target : String) : Round → Nat
  | .tick .. => 0
  | .cycle name before after =>
    if name = target then LogFile.linesAdded (log.destinationFor target) before after else 0

end Round

/-- The meters tell what happened in some rounds, the newest first. -/
structure Meters.AgreesWith (namespaceName : String) (log : LogSettings) (rounds : List Round)
    (m : Meters) : Prop where
  keyed : m.IsKeyed
  scrapes : m.count ⟨namespaceName, .scrapesTotal, none⟩ = (rounds.filterMap (·.snapshot?)).length
  errors : ∀ context, m.count ⟨namespaceName, .scrapeErrorsTotal, some context⟩ =
    (rounds.flatMap (·.failures)).count context
  total : m.total namespaceName .scrapeErrorsTotal =
    ((rounds.filterMap (·.snapshot?)).map (·.errors)).sum
  lastError : m.gauge? ⟨namespaceName, .lastScrapeError, none⟩ =
    (rounds.filterMap (·.snapshot?)).head?.map fun s ↦ if s.errors > 0 then .one else .zero
  lastErrorCount : m.gauge? ⟨namespaceName, .lastScrapeErrorCount, none⟩ =
    (rounds.filterMap (·.snapshot?)).head?.map fun s ↦ .ofNat s.errors
  reloads : m.count ⟨namespaceName, .definitionReloadsTotal, none⟩ =
    rounds.countP (·.replacesPlan)
  lines : ∀ target, m.count ⟨namespaceName, .logLinesTotal, some target⟩ =
    (rounds.map (·.linesFor log target)).sum

namespace Meters

variable {namespaceName : String} {log : LogSettings} {rounds : List Round} {m : Meters}

/-- What a tick does to the meters is what it adds to the run. -/
theorem AgreesWith.tick (h : m.AgreesWith namespaceName log rounds) {record : TickRecord}
    {snapshot : Snapshot} (herrors : snapshot.errors = record.failures.length)
    (duration : Duration) :
    (m.afterTick namespaceName record duration snapshot.errors).AgreesWith namespaceName log
      (.tick record snapshot :: rounds) := by
  obtain ⟨hkeyed, htotal⟩ := h.keyed.afterTick namespaceName record duration snapshot.errors
  obtain ⟨hlast, hlastCount⟩ := gauge?_afterTick namespaceName m record duration snapshot.errors
  have hsnapshots : (Round.tick record snapshot :: rounds).filterMap (·.snapshot?) =
      snapshot :: rounds.filterMap (·.snapshot?) := rfl
  refine ⟨hkeyed, ?_, fun context ↦ ?_, ?_, ?_, ?_, ?_, fun target ↦ ?_⟩
  · rw [count_afterTick, h.scrapes, hsnapshots]
    simp [failureKey]
  · have hcount : record.failures.countP
        (failureKey namespaceName · = ⟨namespaceName, .scrapeErrorsTotal, some context⟩) =
          record.failures.count context :=
      List.countP_congr fun other _ ↦ by simp [failureKey]
    rw [count_afterTick, h.errors, hcount, List.flatMap_cons, List.count_append, Round.failures]
    simp [Nat.add_comm]
  · rw [htotal, h.total, hsnapshots, List.map_cons, List.sum_cons, herrors, Nat.add_comm]
  · rw [hlast, hsnapshots]
    rfl
  · rw [hlastCount, hsnapshots]
    rfl
  · rw [count_afterTick, h.reloads, List.countP_cons, Round.replacesPlan]
    simp [failureKey]
  · rw [count_afterTick, h.lines, List.map_cons, List.sum_cons, Round.linesFor]
    simp [failureKey]

end Meters

/-! ## Cycles -/

namespace Tail

variable {path : String} {fs fs' : Files} {count? : Option Nat}

/-- What a cycle reports is the number of lines that it added. -/
theorem Reports.linesAdded (h : Reports path fs fs' count?) :
    LogFile.linesAdded path fs fs' = count?.getD 0 := by
  have hgrown : ∀ added records, fs'.logContent path = fs.logContent path ++ added →
      LogFile.decode? added = some records →
        LogFile.linesAdded path fs fs' = records.length := by
    intro added records hcontent hdecode
    rw [LogFile.linesAdded, hcontent, List.drop_left, hdecode, Option.getD_some]
  have hsame : fs'.logContent path = fs.logContent path → LogFile.linesAdded path fs fs' = 0 :=
    fun h ↦ hgrown [] [] (h.trans (List.append_nil _).symm) rfl
  cases count? with
  | none =>
    -- A log that is new is empty, and one that was there is as it was.
    apply hsame
    rw [Files.logContent, Files.logContent]
    rcases (h.failed rfl).contentAt?_cases with hcontent | ⟨hbefore, hafter⟩
    · rw [hcontent]
    · rw [hbefore, hafter]
      rfl
  | some n =>
    rcases Nat.eq_zero_or_pos n with rfl | hpos
    · apply hsame
      rw [Files.logContent, h.unchanged rfl]
      rfl
    · obtain ⟨added, records, hcontent, hdecode, rfl⟩ := (h.counted n hpos).1 rfl
      refine hgrown added records ?_ hdecode
      rw [Files.logContent, hcontent]
      rfl

end Tail

namespace Meters

variable {namespaceName : String} {log : LogSettings} {rounds : List Round} {m : Meters}

/-- A cycle adds what it reports to the counter of its target, and touches no other meter. -/
theorem recordCycle_spec (hkeyed : m.IsKeyed) (namespaceName target : String)
    (outcome : Tail.Outcome) :
    (∀ key, (Exporter.recordCycle m namespaceName target outcome).count key = m.count key +
        if ⟨namespaceName, .logLinesTotal, some target⟩ = key then outcome.count?.getD 0 else 0) ∧
      (∀ key, (Exporter.recordCycle m namespaceName target outcome).gauge? key = m.gauge? key) ∧
      (Exporter.recordCycle m namespaceName target outcome).IsKeyed ∧
      (Exporter.recordCycle m namespaceName target outcome).total namespaceName
        .scrapeErrorsTotal = m.total namespaceName .scrapeErrorsTotal := by
  rw [Exporter.recordCycle]
  cases outcome.count? with
  | none => exact ⟨fun key ↦ by simp, fun key ↦ rfl, hkeyed, rfl⟩
  | some n =>
    dsimp only
    split
    · refine ⟨fun key ↦ ?_, fun key ↦ rfl, hkeyed.add _ n, ?_⟩
      · rw [recordLogLines, count_add, Option.getD_some]
      · exact (hkeyed.total_add _ n _ _).trans (by simp)
    · next hnone =>
      obtain rfl := Nat.eq_zero_of_not_pos hnone
      exact ⟨fun key ↦ by simp, fun key ↦ rfl, hkeyed, rfl⟩

/-- What a cycle does to the meters is what it adds to the run. -/
theorem AgreesWith.cycle (h : m.AgreesWith namespaceName log rounds) {target : String}
    {before after : Files} {outcome : Tail.Outcome}
    (hlines : LogFile.linesAdded (log.destinationFor target) before after =
      outcome.count?.getD 0) :
    (Exporter.recordCycle m namespaceName target outcome).AgreesWith namespaceName log
      (.cycle target before after :: rounds) := by
  -- Nothing is recorded where nothing was appended, and adding nothing would be the same.
  obtain ⟨hcount, hgauge, hkeyed, htotal⟩ := recordCycle_spec h.keyed namespaceName target outcome
  refine ⟨hkeyed, ?_, fun context ↦ ?_, ?_, ?_, ?_, ?_, fun other ↦ ?_⟩
  · rw [hcount, h.scrapes]
    simp [Round.snapshot?]
  · rw [hcount, h.errors]
    simp [Round.failures]
  · rw [htotal, h.total]
    simp [Round.snapshot?]
  · rw [hgauge, h.lastError]
    simp [Round.snapshot?]
  · rw [hgauge, h.lastErrorCount]
    simp [Round.snapshot?]
  · rw [hcount, h.reloads]
    simp [Round.replacesPlan]
  · rw [hcount, h.lines, List.map_cons, List.sum_cons, Round.linesFor, Nat.add_comm]
    by_cases hother : target = other
    · subst hother
      simp [hlines]
    · simp [hother]

end Meters

/-! ## Runs -/

namespace Monitor

variable {σ : Type} (server : Clocked σ) (settings : ExporterSettings)

/-- Runs a cycle of log tailing for a target, on a disk that may fail. -/
def tailOn (around : Surroundings σ) (m : Monitor σ) (target : String) : Monitor σ :=
  match m.connection? target with
  | none => m
  | some c =>
    let state := m.tailState target
    let cycle := Tail.cycleOn server settings.limits settings.log around state m.files m.now c
    { m.setConnection cycle.connection with
      files := cycle.files
      tails := m.tails.insert target (cycle.outcome.update state)
      meters := Exporter.recordCycle m.meters settings.namespaceName target cycle.outcome
      now := cycle.now }

/-- On a disk that never fails, and with nobody about, a cycle is one of the exporter. -/
theorem tailOn_tree (m : Monitor σ) (target : String) :
    m.tailOn server settings .tree target = (m.tail server settings target).2 := by
  rw [tailOn, tail]
  cases m.connection? target with
  | none => rfl
  | some c => simp only [Tail.cycleOn_tree]

/-- The rounds of a run of the exporter, the newest first, from its start, when nothing has been
measured. In between anything may happen that does not touch the meters. -/
inductive Metered : List Round → Monitor σ → Prop
  | start {m : Monitor σ} (meters : m.meters = {}) : Metered [] m
  | between {rounds : List Round} {m m' : Monitor σ} (run : Metered rounds m)
      (meters : m'.meters = m.meters) : Metered rounds m'
  | tick {rounds : List Round} {m : Monitor σ} (run : Metered rounds m) :
      Metered
        (.tick (Scraper.record server settings.limits settings.namespaceName m.files m.toTickState)
          (m.tick server settings).scraper.snapshot :: rounds)
        (m.tick server settings)
  | cycle {rounds : List Round} {m : Monitor σ} (run : Metered rounds m) {target : String}
      {c : Connection σ} (found : m.connection? target = some c) (around : Surroundings σ) :
      Metered
        (.cycle target m.files (m.tailOn server settings around target).files :: rounds)
        (m.tailOn server settings around target)

variable {server settings}

namespace Metered

variable {rounds : List Round} {m : Monitor σ}

/-- A run goes on with the cycle of any target. -/
theorem tail (h : Metered server settings rounds m) (target : String) :
    ∃ added, Metered server settings (added ++ rounds) (m.tail server settings target).2 := by
  cases hfound : m.connection? target with
  | none =>
    rw [tail_of_not_found hfound]
    exact ⟨[], h⟩
  | some c =>
    rw [← tailOn_tree]
    exact ⟨[_], h.cycle hfound .tree⟩

theorem foldl_tailFrom (began : Instant) (names : List String)
    (h : Metered server settings rounds m) :
    ∃ added, Metered server settings (added ++ rounds)
      (names.foldl (tailFrom server settings began) m) := by
  induction names generalizing m rounds with
  | nil => exact ⟨[], h⟩
  | cons name names ih =>
    have hbegan : Metered server settings rounds { m with now := began } := h.between rfl
    obtain ⟨added, htail⟩ := hbegan.tail name
    have hfrom : Metered server settings (added ++ rounds)
        (m.tailFrom server settings began name) := htail.between rfl
    obtain ⟨added', hrest⟩ := ih hfrom
    exact ⟨added' ++ added, by rwa [List.append_assoc]⟩

/-- A run goes on with whatever the exporter does. -/
theorem perform (h : Metered server settings rounds m) (operation : Operation) :
    ∃ added, Metered server settings (added ++ rounds) (m.perform server settings operation) := by
  cases operation with
  | check name =>
    refine ⟨[], h.between ?_⟩
    rw [Monitor.perform, check]
    cases m.connection? name with
    | none => rfl
    | some c => rfl
  | acquire name => exact ⟨[], h⟩
  | tick => exact ⟨[_], h.tick⟩
  | tail name => exact h.tail name
  | tailAll => exact h.foldl_tailFrom m.now m.names

end Metered

/-! ### A run

One target whose database refuses the query of its one definition, and brings one event. -/

/-- That database. -/
def eventfulDatabase : Rehearsal where
  responses := [⟨"events", .atOnce (.ok [⟨[("timestamp", some "2024-06-06T14:01:22.513Z"),
      ("module_id", some "m"), ("ecid", some "e"), ("message", some "one")]⟩])⟩,
    ⟨"q", .atOnce (.error (.other "no such table"))⟩]

/-- Its settings. -/
def eventfulSettings : ExporterSettings := { log := { destination := "db.log", query := "events" } }

/-- The exporter before anything was done. -/
def beforeRounds : Monitor Rehearsal :=
  ⟨⟨.start Scraper.slowFiles ["a.toml"] [Scraper.slowTarget],
    [.start Rehearsal.server.steady .zero Scraper.slowTarget eventfulDatabase], {}, .zero⟩, [],
    Scraper.slowFiles⟩

/-- The exporter after a tick. -/
def afterTick : Monitor Rehearsal := beforeRounds.tick Rehearsal.server.steady eventfulSettings

end Monitor

end Telemetry
