import Telemetry.Proofs.Exporter.Journal
import Telemetry.Rehearsal

/-!
# Giving up on the log of a target

A cycle of log tailing counts its query among the failures of the target when the database refuses
it or is late, starts the count anew when it succeeds, and leaves it as it is in every other case.
The third failure ends the tailing of the target for good (`Runs.gives_up`).

## What happens during a cycle

A cycle waits for its check and for the answer to its query, and others go on meanwhile: a tick may
find the credentials rejected before the session is handed out, and the log file may have become
unusable when the rows are there. So the cycles here run amid what others do (`Meanwhile`); without
any of that they are those of the exporter (`Tail.cycleAmid_nothing`). What came of a cycle is told
by what the check, the file, the session and the database did (`Tail.Goes`).

## The invariant

The count is the number of failures since the last success, and the target is given up exactly when
a stretch of cycles without a success holds three of them (`Accounted`). A new cycle can complete
such a stretch only as its newest part, so the count decides (`hasThreeFailures_cons`).
-/

namespace Telemetry

/-- What others do while a cycle of log tailing waits. -/
structure Meanwhile (σ : Type) where
  /-- What becomes of the files until the check is over. -/
  filesAtCheck : Files → Files
  /-- What becomes of the target between its check and its query. -/
  connection : Connection σ → Connection σ
  /-- What becomes of the files until the query is answered. -/
  filesAtReply : Files → Files
  target_connection : ∀ c, (connection c).target = c.target

/-- Others do nothing. -/
def Meanwhile.nothing {σ : Type} : Meanwhile σ := ⟨id, id, id, fun _ ↦ rfl⟩

namespace Tail

/-! ## What came of a cycle -/

/-- What came of a cycle. -/
inductive Event where
  /-- The target had been given up. -/
  | givenUp
  /-- The target did not pass its check. -/
  | unhealthy
  /-- The log file could not be made or read. -/
  | unreadable (cause : FileError)
  /-- The credentials turned out to be rejected after the check. -/
  | invalidated
  /-- The database answered the query with an error. -/
  | refused (error : DbError)
  /-- The database did not answer the query in time. -/
  | late
  /-- The records could not be appended. -/
  | unwritable (cause : FileError)
  /-- So many records were appended. -/
  | succeeded (count : Nat)
  deriving DecidableEq, Repr

namespace Event

/-- The query failed. -/
def isQueryFailure : Event → Bool
  | .refused _ | .late => true
  | _ => false

def isSuccess : Event → Bool
  | .succeeded _ => true
  | _ => false

/-- What a cycle reports, given the log file and the deadline of the query. -/
def outcome (path : String) (deadline : Duration) : Event → Outcome
  | .givenUp => .disabled
  | .unhealthy | .invalidated => .skipped
  | .unreadable cause | .unwritable cause => .failed (.file path cause)
  | .refused e => .failed (.query e)
  | .late => .failed (.query (.timeout deadline))
  | .succeeded n => .appended n

/-- Queries that failed count, successes start the count anew, and all else leaves it. -/
theorem update_outcome (e : Event) (path : String) (deadline : Duration) (s : TailState) :
    (e.outcome path deadline).update s =
      if e.isQueryFailure then s.fail else if e.isSuccess then s.succeed else s := by
  cases e with
  | _ => rfl

theorem isSuccess_of_isQueryFailure {e : Event} (h : e.isQueryFailure = true) :
    e.isSuccess = false := by
  cases e with
  | succeeded n => cases h
  | _ => rfl

end Event

variable {σ : Type} (server : Clocked σ) (limits : ConnectionLimits) (log : LogSettings)
  (meanwhile : Meanwhile σ) (state : TailState) (fs : Files) (now : Instant) (c : Connection σ)

/-- Makes sure of the log file, and finds the moment to resume from. -/
def resumePoint (path : String) : Except FileError Timestamp × Files :=
  match fs.ensure path with
  | (.error cause, fs) => (.error cause, fs)
  | (.ok _, fs) => (LogFile.readCursor fs path, fs)

/-- The part of a cycle before anything is appended, amid what others do. -/
def askAmid : Inquiry σ :=
  if state.disabled then ⟨.error .disabled, c, fs, now⟩
  else
    let checked := c.check server limits now
    let fs := meanwhile.filesAtCheck fs
    match checked.result with
    | .healthy => resume server log fs checked.now (meanwhile.connection checked.connection)
    | .down | .invalid => ⟨.error .skipped, checked.connection, fs, checked.now⟩

/-- A cycle for a target, amid what others do. -/
def cycleAmid : Cycle σ :=
  let asked := askAmid server limits log meanwhile state fs now c
  match asked.answer with
  | .error outcome => ⟨outcome, asked.connection, asked.files, asked.now⟩
  | .ok (since, rows) =>
    let (outcome, fs) := store (meanwhile.filesAtReply asked.files)
      (log.destinationFor c.target.name) since rows
    ⟨outcome, asked.connection, fs, asked.now⟩

theorem cycleAmid_nothing :
    cycleAmid server limits log .nothing state fs now c = cycle server limits log state fs now c :=
  rfl

/-- The target passed its check, and the log file gave the moment to resume from, or did not. -/
structure Resumes (found : Except FileError Timestamp) (fs' : Files) : Prop where
  working : state.disabled = false
  healthy : (c.check server limits now).result = .healthy
  found : resumePoint (meanwhile.filesAtCheck fs) (log.destinationFor c.target.name) = (found, fs')

/-- The session that the query is sent through, if it is handed out. -/
def handedOut : Except ScrapeError Session :=
  (meanwhile.connection (c.check server limits now).connection).acquire
    (c.check server limits now).now

/-- The query for what is newer than a moment was sent, and this is what came back. -/
structure Answered (since : Timestamp) (fs' : Files) (reply : Reply (List Row)) : Prop extends
    Resumes server limits log meanwhile state fs now c (.ok since) fs' where
  fetched : ∃ session, handedOut server limits meanwhile now c = .ok session ∧
    (session.fetch (server (c.check server limits now).now) (queryFrom log since)
      (meanwhile.connection (c.check server limits now).connection).database).1 = reply

/-- What a cycle goes through. -/
inductive Goes : Event → Prop
  | givenUp (disabled : state.disabled = true) : Goes .givenUp
  | unhealthy (working : state.disabled = false)
      (unhealthy : (c.check server limits now).result ≠ .healthy) : Goes .unhealthy
  | unreadable {cause : FileError} {fs' : Files}
      (resumes : Resumes server limits log meanwhile state fs now c (.error cause) fs') :
      Goes (.unreadable cause)
  | invalidated {since : Timestamp} {fs' : Files} {e : ScrapeError}
      (resumes : Resumes server limits log meanwhile state fs now c (.ok since) fs')
      (refused : handedOut server limits meanwhile now c = .error e) : Goes .invalidated
  | refused {since : Timestamp} {fs' : Files} {reply : Reply (List Row)} {e : DbError}
      (answered : Answered server limits log meanwhile state fs now c since fs' reply)
      (inTime : reply.delay.ceilMillis ≤ c.target.settings.queryTimeout.ceilMillis)
      (outcome : reply.outcome = .error e) : Goes (.refused e)
  | late {since : Timestamp} {fs' : Files} {reply : Reply (List Row)}
      (answered : Answered server limits log meanwhile state fs now c since fs' reply)
      (late : c.target.settings.queryTimeout.ceilMillis < reply.delay.ceilMillis) : Goes .late
  | unwritable {since : Timestamp} {fs' : Files} {reply : Reply (List Row)} {rows : List Row}
      {cause : FileError}
      (answered : Answered server limits log meanwhile state fs now c since fs' reply)
      (inTime : reply.delay.ceilMillis ≤ c.target.settings.queryTimeout.ceilMillis)
      (outcome : reply.outcome = .ok rows) (new : LogRecord.newer rows since ≠ [])
      (failed : (meanwhile.filesAtReply fs').append (log.destinationFor c.target.name)
        (LogFile.encode (LogRecord.newer rows since)) = .error cause) : Goes (.unwritable cause)
  | succeeded {since : Timestamp} {fs' : Files} {reply : Reply (List Row)} {rows : List Row}
      (answered : Answered server limits log meanwhile state fs now c since fs' reply)
      (inTime : reply.delay.ceilMillis ≤ c.target.settings.queryTimeout.ceilMillis)
      (outcome : reply.outcome = .ok rows)
      (stored : LogRecord.newer rows since = [] ∨
        ∃ fs'', (meanwhile.filesAtReply fs').append (log.destinationFor c.target.name)
          (LogFile.encode (LogRecord.newer rows since)) = .ok fs'') :
      Goes (.succeeded (LogRecord.newer rows since).length)

variable {server limits log meanwhile state fs now c}

theorem cycleAmid_of_disabled (h : state.disabled = true) :
    cycleAmid server limits log meanwhile state fs now c = ⟨.disabled, c, fs, now⟩ := by
  rw [cycleAmid, askAmid, if_pos h]

theorem target_check_meanwhile :
    (meanwhile.connection (c.check server limits now).connection).target = c.target :=
  (meanwhile.target_connection _).trans (c.target_check server limits now)

theorem askAmid_of_unhealthy (hworking : state.disabled = false)
    (h : (c.check server limits now).result ≠ .healthy) :
    (askAmid server limits log meanwhile state fs now c).answer = .error .skipped := by
  rw [askAmid, if_neg (by rw [hworking]; decide)]
  dsimp only
  cases hresult : (c.check server limits now).result with
  | healthy => exact absurd hresult h
  | down => rfl
  | invalid => rfl

theorem askAmid_of_healthy (hworking : state.disabled = false)
    (h : (c.check server limits now).result = .healthy) :
    askAmid server limits log meanwhile state fs now c =
      resume server log (meanwhile.filesAtCheck fs) (c.check server limits now).now
        (meanwhile.connection (c.check server limits now).connection) := by
  rw [askAmid, if_neg (by rw [hworking]; decide)]
  dsimp only
  rw [h]

/-- The log file decides whether a cycle comes to its query. -/
theorem resume_eq (fs : Files) (now : Instant) (c : Connection σ) :
    resume server log fs now c =
      match resumePoint fs (log.destinationFor c.target.name) with
      | (.error cause, fs) =>
        ⟨.error (.failed (.file (log.destinationFor c.target.name) cause)), c, fs, now⟩
      | (.ok since, fs) => fetchSince server log fs since now c := by
  rw [resume, resumePoint]
  rcases fs.ensure (log.destinationFor c.target.name) with ⟨result, fs₁⟩
  cases result with
  | error cause => rfl
  | ok _ =>
    dsimp only
    cases LogFile.readCursor fs₁ (log.destinationFor c.target.name) with
    | error cause => rfl
    | ok since => rfl

theorem askAmid_of_unreadable {cause : FileError} {fs' : Files}
    (h : Resumes server limits log meanwhile state fs now c (.error cause) fs') :
    (askAmid server limits log meanwhile state fs now c).answer =
      .error (.failed (.file (log.destinationFor c.target.name) cause)) := by
  rw [askAmid_of_healthy h.working h.healthy, resume_eq, target_check_meanwhile, h.found]

theorem askAmid_of_resumes {since : Timestamp} {fs' : Files}
    (h : Resumes server limits log meanwhile state fs now c (.ok since) fs') :
    askAmid server limits log meanwhile state fs now c =
      fetchSince server log fs' since (c.check server limits now).now
        (meanwhile.connection (c.check server limits now).connection) := by
  rw [askAmid_of_healthy h.working h.healthy, resume_eq, target_check_meanwhile, h.found]

/-- The database refused the query, or was late. -/
theorem askAmid_of_error {since : Timestamp} {fs' : Files} {reply : Reply (List Row)}
    {e : DbError} (h : Answered server limits log meanwhile state fs now c since fs' reply)
    (herror : reply.within c.target.settings.queryTimeout = .error e) :
    (askAmid server limits log meanwhile state fs now c).answer = .error (.failed (.query e)) := by
  obtain ⟨session, hsession, hreply⟩ := h.fetched
  rw [handedOut] at hsession
  rw [askAmid_of_resumes h.toResumes, fetchSince, hsession]
  dsimp only
  rw [hreply, target_check_meanwhile, herror]

theorem askAmid_of_rows {since : Timestamp} {fs' : Files} {reply : Reply (List Row)}
    {rows : List Row} (h : Answered server limits log meanwhile state fs now c since fs' reply)
    (hrows : reply.within c.target.settings.queryTimeout = .ok rows) :
    (askAmid server limits log meanwhile state fs now c).answer = .ok (since, rows) ∧
      (askAmid server limits log meanwhile state fs now c).files = fs' := by
  obtain ⟨session, hsession, hreply⟩ := h.fetched
  rw [handedOut] at hsession
  rw [askAmid_of_resumes h.toResumes, fetchSince, hsession]
  dsimp only
  rw [hreply, target_check_meanwhile, hrows]
  exact ⟨rfl, rfl⟩

theorem outcome_cycleAmid_of_error {outcome : Outcome}
    (h : (askAmid server limits log meanwhile state fs now c).answer = .error outcome) :
    (cycleAmid server limits log meanwhile state fs now c).outcome = outcome := by
  rw [cycleAmid]
  dsimp only
  rw [h]

/-- Once there are rows, the outcome is that of storing them. -/
theorem outcome_cycleAmid_of_rows {since : Timestamp} {fs' : Files} {reply : Reply (List Row)}
    {rows : List Row} (h : Answered server limits log meanwhile state fs now c since fs' reply)
    (hrows : reply.within c.target.settings.queryTimeout = .ok rows) :
    (cycleAmid server limits log meanwhile state fs now c).outcome =
      (store (meanwhile.filesAtReply fs') (log.destinationFor c.target.name) since rows).1 := by
  obtain ⟨hanswer, hfiles⟩ := askAmid_of_rows h hrows
  rw [cycleAmid]
  dsimp only
  rw [hanswer, hfiles]

/-- A cycle reports what it went through. -/
theorem outcome_of_goes {e : Event} (h : Goes server limits log meanwhile state fs now c e) :
    (cycleAmid server limits log meanwhile state fs now c).outcome =
      e.outcome (log.destinationFor c.target.name) c.target.settings.queryTimeout := by
  cases h with
  | givenUp hdisabled => rw [cycleAmid_of_disabled hdisabled, Event.outcome]
  | unhealthy hworking hresult =>
    exact outcome_cycleAmid_of_error (askAmid_of_unhealthy hworking hresult)
  | unreadable hresumes => exact outcome_cycleAmid_of_error (askAmid_of_unreadable hresumes)
  | invalidated hresumes hrefused =>
    refine outcome_cycleAmid_of_error ?_
    rw [handedOut] at hrefused
    rw [askAmid_of_resumes hresumes, fetchSince, hrefused, Event.outcome]
  | refused hanswered hintime houtcome =>
    refine outcome_cycleAmid_of_error (askAmid_of_error hanswered ?_)
    rw [Reply.within, if_pos hintime, houtcome]
  | late hanswered hlate =>
    refine outcome_cycleAmid_of_error (askAmid_of_error hanswered ?_)
    rw [Reply.within, if_neg (Nat.not_le.2 hlate)]
  | unwritable hanswered hintime houtcome hnew hfailed =>
    rw [outcome_cycleAmid_of_rows hanswered (by rw [Reply.within, if_pos hintime, houtcome]),
      store, if_neg (by rwa [List.isEmpty_iff]), LogFile.appendRecords, hfailed, Event.outcome]
  | succeeded hanswered hintime houtcome hstored =>
    rw [outcome_cycleAmid_of_rows hanswered (by rw [Reply.within, if_pos hintime, houtcome]),
      store, Event.outcome]
    split
    · next hempty => rw [List.isEmpty_iff.1 hempty, List.length_nil]
    · next hnew =>
      obtain ⟨fs'', happend⟩ := hstored.resolve_left (by rwa [List.isEmpty_iff] at hnew)
      rw [LogFile.appendRecords, happend]

/-- A cycle that was answered goes on to the end of one of four ways. -/
theorem exists_goes_of_answered {since : Timestamp} {fs' : Files} {reply : Reply (List Row)}
    (h : Answered server limits log meanwhile state fs now c since fs' reply) :
    ∃ e, Goes server limits log meanwhile state fs now c e := by
  by_cases hintime : reply.delay.ceilMillis ≤ c.target.settings.queryTimeout.ceilMillis
  · cases houtcome : reply.outcome with
    | error e => exact ⟨_, .refused h hintime houtcome⟩
    | ok rows =>
      by_cases hempty : LogRecord.newer rows since = []
      · exact ⟨_, .succeeded h hintime houtcome (.inl hempty)⟩
      · cases happend : (meanwhile.filesAtReply fs').append (log.destinationFor c.target.name)
            (LogFile.encode (LogRecord.newer rows since)) with
        | error cause => exact ⟨_, .unwritable h hintime houtcome hempty happend⟩
        | ok fs'' => exact ⟨_, .succeeded h hintime houtcome (.inr ⟨fs'', happend⟩)⟩
  · exact ⟨_, .late h (Nat.not_le.1 hintime)⟩

variable (server limits log meanwhile state fs now c) in
/-- Every cycle goes one of these ways. -/
theorem exists_goes : ∃ e, Goes server limits log meanwhile state fs now c e := by
  cases hdisabled : state.disabled with
  | true => exact ⟨_, .givenUp hdisabled⟩
  | false =>
    by_cases hhealthy : (c.check server limits now).result = .healthy
    · rcases hpoint : resumePoint (meanwhile.filesAtCheck fs) (log.destinationFor c.target.name)
        with ⟨found, fs'⟩
      have hresumes : Resumes server limits log meanwhile state fs now c found fs' :=
        ⟨hdisabled, hhealthy, hpoint⟩
      cases found with
      | error cause => exact ⟨_, .unreadable hresumes⟩
      | ok since =>
        cases hsession : handedOut server limits meanwhile now c with
        | error e => exact ⟨_, .invalidated hresumes hsession⟩
        | ok session => exact exists_goes_of_answered ⟨hresumes, session, hsession, rfl⟩
    · exact ⟨_, .unhealthy hdisabled hhealthy⟩

/-- Only a target that was given up has cycles that say so. -/
theorem disabled_iff_of_goes {e : Event} (h : Goes server limits log meanwhile state fs now c e) :
    state.disabled = true ↔ e = .givenUp := by
  cases h with
  | givenUp hdisabled => simp [hdisabled]
  | unhealthy hworking _ => simp [hworking]
  | unreadable hresumes => simp [hresumes.working]
  | invalidated hresumes _ => simp [hresumes.working]
  | refused hanswered _ _ => simp [hanswered.working]
  | late hanswered _ => simp [hanswered.working]
  | unwritable hanswered _ _ _ _ => simp [hanswered.working]
  | succeeded hanswered _ _ _ => simp [hanswered.working]

/-! ## Counting

Events stand with the newest first. -/

/-- The failures of the query since the last success. -/
def failuresSinceSuccess (events : List Event) : Nat :=
  (events.takeWhile fun e ↦ !e.isSuccess).countP (·.isQueryFailure)

/-- Three failures of the query, and no success between the first and the third. -/
def HasThreeFailures (events : List Event) : Prop :=
  ∃ stretch, stretch <:+: events ∧ (∀ e ∈ stretch, e.isSuccess = false) ∧
    3 ≤ stretch.countP (·.isQueryFailure)

@[simp]
theorem failuresSinceSuccess_cons (e : Event) (events : List Event) :
    failuresSinceSuccess (e :: events) =
      if e.isSuccess then 0
      else failuresSinceSuccess events + if e.isQueryFailure then 1 else 0 := by
  rw [failuresSinceSuccess, List.takeWhile_cons]
  cases e.isSuccess with
  | true => rfl
  | false => simp [failuresSinceSuccess, List.countP_cons]

theorem hasThreeFailures_of_le {events : List Event} (h : 3 ≤ failuresSinceSuccess events) :
    HasThreeFailures events := by
  refine ⟨_, (List.takeWhile_prefix _).isInfix, fun e he ↦ ?_, h⟩
  simpa using List.all_eq_true.1 List.all_takeWhile e he

/-- The newest part of a stretch without a success holds no more failures than were counted. -/
theorem countP_le_of_begins {stretch events : List Event} (hbegins : stretch <+: events)
    (hsuccess : ∀ e ∈ stretch, e.isSuccess = false) :
    stretch.countP (·.isQueryFailure) ≤ failuresSinceSuccess events := by
  obtain ⟨rest, rfl⟩ := hbegins
  rw [failuresSinceSuccess, List.takeWhile_append_of_pos (by simpa using hsuccess),
    List.countP_append]
  exact Nat.le_add_right _ _

theorem hasThreeFailures_cons (e : Event) (events : List Event) :
    HasThreeFailures (e :: events) ↔
      3 ≤ failuresSinceSuccess (e :: events) ∨ HasThreeFailures events := by
  constructor
  · rintro ⟨stretch, hstretch, hsuccess, hthree⟩
    rcases List.infix_cons_iff.1 hstretch with hbegins | hstretch
    · exact .inl (Nat.le_trans hthree (countP_le_of_begins hbegins hsuccess))
    · exact .inr ⟨stretch, hstretch, hsuccess, hthree⟩
  · rintro (hthree | ⟨stretch, hstretch, hsuccess, hthree⟩)
    · exact hasThreeFailures_of_le hthree
    · exact ⟨stretch, hstretch.trans (List.infix_cons (List.infix_refl _)), hsuccess, hthree⟩

/-- What is kept about the tailing of a target says what came of its cycles. -/
structure Accounted (events : List Event) (s : TailState) : Prop where
  failures : s.failures = failuresSinceSuccess events
  disabled : s.disabled = true ↔ HasThreeFailures events
  le : s.failures ≤ TailState.maxFailures

theorem accounted_nil : Accounted [] {} := by
  refine ⟨rfl, ⟨nofun, ?_⟩, Nat.zero_le _⟩
  rintro ⟨stretch, hstretch, -, hthree⟩
  rw [List.infix_nil.1 hstretch] at hthree
  exact absurd hthree (by decide)

/-- One more cycle. -/
theorem Accounted.cons {events : List Event} {s : TailState} (h : Accounted events s) {e : Event}
    (hgivenUp : s.disabled = true ↔ e = .givenUp) (path : String) (deadline : Duration) :
    Accounted (e :: events) ((e.outcome path deadline).update s) := by
  have hfailures := h.failures
  have hthree : 3 ≤ failuresSinceSuccess events → s.disabled = true :=
    fun hle ↦ h.disabled.2 (hasThreeFailures_of_le hle)
  rw [Event.update_outcome]
  cases hquery : e.isQueryFailure with
  | true =>
    -- The cycle ran its query, so there were at most two failures before it.
    have hworking : s.disabled = false := by
      rw [← Bool.not_eq_true, hgivenUp]
      rintro rfl
      cases hquery
    have hlt : failuresSinceSuccess events < 3 :=
      Nat.lt_of_not_le fun hle ↦ absurd (hthree hle) (by simp [hworking])
    have hcount : failuresSinceSuccess (e :: events) = failuresSinceSuccess events + 1 := by
      simp [Event.isSuccess_of_isQueryFailure hquery, hquery]
    refine ⟨?_, ?_, ?_⟩
    · rw [if_pos rfl, TailState.fail, hcount, hfailures]
    · rw [hasThreeFailures_cons, ← h.disabled, hcount]
      simp [TailState.fail, TailState.maxFailures, hworking, hfailures]
    · rw [if_pos rfl, TailState.fail, TailState.maxFailures, hfailures]
      exact hlt
  | false =>
    cases hsuccess : e.isSuccess with
    | true =>
      refine ⟨?_, ?_, Nat.zero_le _⟩
      · simp [hsuccess, TailState.succeed]
      · rw [hasThreeFailures_cons, ← h.disabled]
        simp [hsuccess, TailState.succeed]
    | false =>
      have hcount : failuresSinceSuccess (e :: events) = failuresSinceSuccess events := by
        simp [hsuccess, hquery]
      refine ⟨hfailures.trans hcount.symm, ?_, h.le⟩
      rw [hasThreeFailures_cons, ← h.disabled, hcount]
      exact ⟨.inr, fun hor ↦ hor.elim hthree id⟩

end Tail

/-! ## Runs -/

namespace Monitor

open Tail

variable {σ : Type} (server : Clocked σ) (settings : ExporterSettings) (target : String)

/-- Runs a cycle of log tailing for a target, amid what others do. -/
def tailAmid (meanwhile : Meanwhile σ) (m : Monitor σ) : Monitor σ :=
  match m.connection? target with
  | none => m
  | some c =>
    let state := m.tailState target
    let cycle := Tail.cycleAmid server settings.limits settings.log meanwhile state m.files m.now c
    { m.setConnection cycle.connection with
      files := cycle.files
      tails := m.tails.insert target (cycle.outcome.update state)
      meters := Exporter.recordCycle m.meters settings.namespaceName target cycle.outcome
      now := cycle.now }

theorem tailAmid_nothing (m : Monitor σ) :
    m.tailAmid server settings target .nothing = (m.tail server settings target).2 := by
  rw [tailAmid, tail]
  cases m.connection? target with
  | none => rfl
  | some c => rfl

/-- What a cycle for a target goes through. -/
def Goes (meanwhile : Meanwhile σ) (m : Monitor σ) (c : Connection σ) (e : Event) : Prop :=
  Tail.Goes server settings.limits settings.log meanwhile (m.tailState target) m.files m.now c e

/-- A run from a state: cycles of log tailing for a target, with what came of them, the newest
first. In between anything may happen that leaves alone what is kept about the tailing of the
target. -/
inductive Runs (m₀ : Monitor σ) : List Event → Monitor σ → Prop
  | refl : Runs m₀ [] m₀
  | between {events : List Event} {m m' : Monitor σ} (run : Runs m₀ events m)
      (tail : m'.tailState target = m.tailState target) : Runs m₀ events m'
  | cycle {events : List Event} {m : Monitor σ} (run : Runs m₀ events m) {c : Connection σ}
      (found : m.connection? target = some c) (meanwhile : Meanwhile σ) {e : Event}
      (goes : m.Goes server settings target meanwhile c e) :
      Runs m₀ (e :: events) (m.tailAmid server settings target meanwhile)

variable {server settings target}

theorem tailState_tailAmid {m : Monitor σ} {c : Connection σ} {meanwhile : Meanwhile σ} {e : Event}
    (hfound : m.connection? target = some c) (hgoes : m.Goes server settings target meanwhile c e) :
    (m.tailAmid server settings target meanwhile).tailState target =
      (e.outcome (settings.log.destinationFor c.target.name)
        c.target.settings.queryTimeout).update (m.tailState target) := by
  rw [tailAmid, hfound, tailState]
  dsimp only
  rw [KeyMap.get?_insert, if_pos rfl, Option.getD_some, outcome_of_goes hgoes]

/-- Cycles of a target leave alone what is kept about the others, whatever happens meanwhile. -/
theorem tailState_tailAmid_of_ne {name : String} (hne : name ≠ target) (m : Monitor σ)
    (meanwhile : Meanwhile σ) :
    (m.tailAmid server settings name meanwhile).tailState target = m.tailState target := by
  rw [tailAmid]
  cases m.connection? name with
  | none => rfl
  | some c =>
    dsimp only
    rw [tailState, KeyMap.get?_insert, if_neg hne, ← tailState]

theorem tailState_tail {name : String} (m : Monitor σ) (hne : name ≠ target) :
    (m.tail server settings name).2.tailState target = m.tailState target := by
  rw [← tailAmid_nothing]
  exact tailState_tailAmid_of_ne hne m .nothing

/-- A cycle for a target that was given up asks nothing of it, and leaves its log file alone. -/
theorem tailAmid_of_disabled {m : Monitor σ} (h : (m.tailState target).disabled = true)
    (meanwhile : Meanwhile σ) :
    (m.tailAmid server settings target meanwhile).connection? target = m.connection? target ∧
      (m.tailAmid server settings target meanwhile).files = m.files := by
  cases hfound : m.connection? target with
  | none =>
    rw [tailAmid, hfound]
    exact ⟨hfound, rfl⟩
  | some c =>
    rw [tailAmid, hfound]
    dsimp only
    rw [Tail.cycleAmid_of_disabled h]
    exact ⟨(connection?_setConnection hfound (name_of_connection? hfound) target).trans
      (if_pos rfl), rfl⟩

namespace Runs

variable {m₀ m m' : Monitor σ} {events : List Event}

/-- **The invariant.** -/
theorem accounted (h : Runs server settings target m₀ events m) (hstart : m₀.tailState target = {}) :
    Accounted events (m.tailState target) := by
  induction h with
  | refl =>
    rw [hstart]
    exact accounted_nil
  | between _ htail ih =>
    rw [htail]
    exact ih
  | cycle _ hfound meanwhile hgoes ih =>
    rw [tailState_tailAmid hfound hgoes]
    exact ih.cons (disabled_iff_of_goes hgoes) _ _

/-- A target that was given up stays given up. -/
theorem disabled (h : Runs server settings target m events m')
    (hdisabled : (m.tailState target).disabled = true) : (m'.tailState target).disabled = true := by
  induction h with
  | refl => exact hdisabled
  | between _ htail ih =>
    rw [htail]
    exact ih
  | cycle _ hfound meanwhile hgoes ih =>
    rw [tailState_tailAmid hfound hgoes, (disabled_iff_of_goes hgoes).1 ih]
    exact ih

/-- A run goes on with the cycle of any target. -/
theorem tail (h : Runs server settings target m₀ events m) (name : String) :
    ∃ added, Runs server settings target m₀ (added ++ events) (m.tail server settings name).2 := by
  by_cases hname : name = target
  · subst hname
    cases hfound : m.connection? name with
    | none =>
      rw [tail_of_not_found hfound]
      exact ⟨[], h⟩
    | some c =>
      obtain ⟨e, hgoes⟩ := exists_goes server settings.limits settings.log .nothing
        (m.tailState name) m.files m.now c
      rw [← tailAmid_nothing]
      exact ⟨[e], h.cycle hfound .nothing hgoes⟩
  · exact ⟨[], h.between (tailState_tail m hname)⟩

theorem foldl_tailFrom (began : Instant) (names : List String)
    (h : Runs server settings target m₀ events m) :
    ∃ added, Runs server settings target m₀ (added ++ events)
      (names.foldl (tailFrom server settings began) m) := by
  induction names generalizing m events with
  | nil => exact ⟨[], h⟩
  | cons name names ih =>
    have hbegan : Runs server settings target m₀ events { m with now := began } := h.between rfl
    obtain ⟨added, htail⟩ := hbegan.tail name
    have hfrom : Runs server settings target m₀ (added ++ events)
        (m.tailFrom server settings began name) := htail.between rfl
    obtain ⟨added', hrest⟩ := ih hfrom
    exact ⟨added' ++ added, by rwa [List.append_assoc]⟩

/-- A run goes on with whatever the exporter does. -/
theorem perform (h : Runs server settings target m₀ events m) (operation : Operation) :
    ∃ added, Runs server settings target m₀ (added ++ events)
      (m.perform server settings operation) := by
  cases operation with
  | check name =>
    refine ⟨[], h.between ?_⟩
    rw [Monitor.perform, check]
    cases m.connection? name with
    | none => rfl
    | some c => rfl
  | acquire name => exact ⟨[], h⟩
  | tick => exact ⟨[], h.between rfl⟩
  | tail name => exact h.tail name
  | tailAll => exact h.foldl_tailFrom m.now m.names

/-- A target is given up exactly when three of its queries failed with no success from the first to
the third. The count is that of the failures since the last success, and three at most. Cycles of a
target that was given up leave its connection as it is, and with it the journal of what its database
was asked, and all files; and that holds for ever. There is always a next cycle, whatever happens in
it. -/
theorem gives_up {server : Clocked σ} {m₀ m : Monitor (Journaled σ)} {events : List Event}
    (h : Runs server.journaled settings target m₀ events m) (hstart : m₀.tailState target = {}) :
    ((m.tailState target).disabled = true ↔ HasThreeFailures events) ∧
      (m.tailState target).failures = failuresSinceSuccess events ∧
      (m.tailState target).failures ≤ 3 ∧
      ((m.tailState target).disabled = true → ∀ later m',
        Runs server.journaled settings target m later m' →
        (m'.tailState target).disabled = true ∧
          ∀ meanwhile, (m'.tailAmid server.journaled settings target meanwhile).connection? target =
              m'.connection? target ∧
            (m'.tailAmid server.journaled settings target meanwhile).files = m'.files) ∧
      ∀ c meanwhile, m.connection? target = some c →
        ∃ e, m.Goes server.journaled settings target meanwhile c e := by
  have haccounted := h.accounted hstart
  refine ⟨haccounted.disabled, haccounted.failures, haccounted.le, ?_, ?_⟩
  · intro hdisabled later m' hlater
    have hstays := hlater.disabled hdisabled
    exact ⟨hstays, fun meanwhile ↦ tailAmid_of_disabled hstays meanwhile⟩
  · intro c meanwhile _
    exact exists_goes server.journaled settings.limits settings.log meanwhile
      (m.tailState target) m.files m.now c

end Runs

/-! ### A database that refuses every query -/

def refusal : DbError := .other "no such table"

/-- The target of that database, with what it answers to pings. -/
def refusing (pings : List (Option DbError)) : Connection (Journaled Rehearsal) where
  target := ⟨"t", { url := "" }, []⟩
  session := .live 1
  health := {}
  database :=
    ⟨{ opens := 1, pingScript := pings, responses := [⟨"q", .atOnce (.error refusal)⟩] }, []⟩

/-- An exporter with that target. -/
def facing (pings : List (Option DbError)) (tails : KeyMap TailState) :
    Monitor (Journaled Rehearsal) :=
  ⟨⟨.start .empty [] [], [refusing pings], {}, .zero⟩, tails, .empty⟩

/-- Its settings. -/
def tailingSettings : ExporterSettings := { log := { destination := "t.log", query := "q" } }

/-- Its runs. -/
abbrev RunsFacing (m₀ : Monitor (Journaled Rehearsal)) :
    List Event → Monitor (Journaled Rehearsal) → Prop :=
  Runs Rehearsal.server.steady.journaled tailingSettings "t" m₀

section Refusing

variable {events : List Event} {m₀ m : Monitor (Journaled Rehearsal)}

theorem goes_refused (tails : KeyMap TailState)
    (hworking : ((facing [] tails).tailState "t").disabled = false) :
    (facing [] tails).Goes Rehearsal.server.steady.journaled tailingSettings "t" .nothing
      (refusing []) (.refused refusal) := by
  have hpoint : (resumePoint .empty "t.log").1 = .ok LogRecord.sentinel := by decide +kernel
  have hpath : tailingSettings.log.destinationFor "t" = "t.log" := by decide +kernel
  have hmatches : Text.contains (queryFrom tailingSettings.log LogRecord.sentinel) "q" = true := by
    decide +kernel
  have hanswer (r : Rehearsal) (h : r.responses = [⟨"q", .atOnce (.error refusal)⟩]) :
      r.answer (queryFrom tailingSettings.log LogRecord.sentinel) = .atOnce (.error refusal) := by
    rw [Rehearsal.answer, h, List.find?_cons, hmatches]
  have hresumes : Resumes Rehearsal.server.steady.journaled {} tailingSettings.log .nothing
      ((facing [] tails).tailState "t") .empty .zero (refusing []) (.ok LogRecord.sentinel)
      (resumePoint .empty "t.log").2 := by
    refine ⟨hworking, by decide +kernel, ?_⟩
    change resumePoint .empty (tailingSettings.log.destinationFor "t") = _
    rw [hpath, ← hpoint]
  have hanswered : Answered Rehearsal.server.steady.journaled {} tailingSettings.log .nothing
      ((facing [] tails).tailState "t") .empty .zero (refusing []) LogRecord.sentinel
      (resumePoint .empty "t.log").2 (.atOnce (.error refusal)) :=
    ⟨hresumes, .live 1, rfl, hanswer _ rfl⟩
  exact .refused hanswered (by decide) rfl

/-- A refused query. -/
theorem Runs.refused (h : RunsFacing m₀ events m) (hworking : (m.tailState "t").disabled = false) :
    ∃ m', RunsFacing m₀ (.refused refusal :: events) m' ∧
      m'.tailState "t" = (m.tailState "t").fail := by
  have hfacing : RunsFacing m₀ events (facing [] m.tails) := h.between rfl
  have hgoes := goes_refused m.tails hworking
  exact ⟨_, hfacing.cycle rfl .nothing hgoes, tailState_tailAmid rfl hgoes⟩

/-- A check that fails. -/
theorem Runs.skipped (h : RunsFacing m₀ events m) (hworking : (m.tailState "t").disabled = false) :
    ∃ m', RunsFacing m₀ (.unhealthy :: events) m' ∧ m'.tailState "t" = m.tailState "t" := by
  have hfacing : RunsFacing m₀ events (facing [some refusal] m.tails) := h.between rfl
  have hcheck : ((refusing [some refusal]).check Rehearsal.server.steady.journaled {} .zero).result
      ≠ .healthy := by decide +kernel
  have hgoes : (facing [some refusal] m.tails).Goes Rehearsal.server.steady.journaled
      tailingSettings "t" .nothing (refusing [some refusal]) .unhealthy := .unhealthy hworking hcheck
  exact ⟨_, hfacing.cycle rfl .nothing hgoes, tailState_tailAmid rfl hgoes⟩

end Refusing

/-- A failed check between the first failure and the second does not save the target. -/
theorem gives_up_afterThird :
    ∃ m, RunsFacing (facing [] [])
        [.refused refusal, .refused refusal, .unhealthy, .refused refusal] m ∧
      m.tailState "t" = ⟨3, true⟩ ∧
      ∀ pings, ((facing pings m.tails).tailAmid Rehearsal.server.steady.journaled tailingSettings
        "t" .nothing).connection? "t" = some (refusing pings) := by
  have hstart : (facing [] []).tailState "t" = {} := rfl
  obtain ⟨m₁, hfirst, hone⟩ := Runs.refused .refl (by rw [hstart])
  rw [hstart] at hone
  obtain ⟨m₂, hskipped, hstill⟩ := Runs.skipped hfirst (by rw [hone]; rfl)
  rw [hone] at hstill
  obtain ⟨m₃, hsecond, htwo⟩ := Runs.refused hskipped (by rw [hstill]; rfl)
  rw [hstill] at htwo
  obtain ⟨m₄, hthird, hthree⟩ := Runs.refused hsecond (by rw [htwo]; rfl)
  rw [htwo] at hthree
  obtain ⟨hiff, -, -, halone, -⟩ := Runs.gives_up hthird hstart
  have hstretch : HasThreeFailures
      [.refused refusal, .refused refusal, .unhealthy, .refused refusal] :=
    ⟨_, List.infix_refl _, by decide, by decide⟩
  refine ⟨m₄, hthird, hthree, fun pings ↦ ?_⟩
  have hlater := halone (hiff.2 hstretch) [] (facing pings m₄.tails) (.between .refl rfl)
  exact (hlater.2 .nothing).1

end Monitor

end Telemetry
