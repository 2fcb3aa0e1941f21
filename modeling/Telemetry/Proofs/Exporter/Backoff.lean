import Telemetry.Proofs.Exporter.Monitor
import Telemetry.Proofs.Log.Tail
import Telemetry.Proofs.Target.Isolation
import Telemetry.Rehearsal

/-!
# The backoff of a target

Checks, ticks and cycles of log tailing, in any order, share the health of a target. When its
credentials were rejected, whoever asked for it, all of them leave it alone until the backoff is
over, and the next one contacts it again (`Reached.backoff_isolates`). This is stated of targets
whose databases are behind journals, which changes nothing about what is done
(`Monitor.plain_perform`).

## The invariant

All connections are `Guarded` whenever no operation is under way. An operation that concerns a
target begins with a check of it, so what it makes of the connection is a visit (`Visited`); all
others pass the target by (`PassedBy`). The log file is in the statement by its place: targets may
share one, and then the cycle of another target writes to it.
-/

namespace Telemetry

open Contact

variable {σ : Type} {server : Clocked σ} {limits : ConnectionLimits}

/-! ## One target in a tick -/

namespace Tick

open Connection

variable {namespaceName : String} {plan : Plan} {cache : MetricCache} {now : Instant}
  {c : Connection (Journaled σ)}

/-- After its check a target is sent queries, if anything. -/
theorem queried_scrapeTarget :
    Queried (c.check server.journaled limits now).now
      (c.check server.journaled limits now).connection
      (scrapeTarget server.journaled limits namespaceName plan cache now c).now
      (scrapeTarget server.journaled limits namespaceName plan cache now c).connection := by
  rcases scrapeTarget_cases server.journaled limits namespaceName plan cache now c with
    h | ⟨⟨hhealthy, hvalid⟩, h⟩
  · rw [h]
    exact Queried.refl _ _
  · obtain ⟨generation, hsession⟩ := c.live_of_check_healthy server.journaled limits now hhealthy
    rw [h, hsession]
    refine ⟨rfl, rfl, le_after _ _, _, contacts_dispatch server generation _ _ _, ?_⟩
    intro query hmem
    obtain ⟨d, -, rfl⟩ := List.mem_map.1 (List.mem_reverse.1 hmem)
    exact ⟨.fetched generation d.request, hvalid⟩

/-- Inside a backoff a target contributes nothing. -/
theorem result_scrapeTarget_of_backoff (h : c.Guarded limits now)
    (hbackoff : ¬ BackoffsEndBy limits now c.contacts) :
    (scrapeTarget server.journaled limits namespaceName plan cache now c).result =
      absent c.target := by
  rw [scrapeTarget, check_of_backoff h hbackoff]

/-- All that is published for a target that contributes nothing is that it is not up. -/
theorem observations_absent (target : Target) :
    (absent target).observations namespaceName = [upObservation namespaceName target false] := rfl

end Tick

/-! ## One target in a cycle of log tailing -/

namespace Tail

open Connection

variable {log : LogSettings} {state : TailState} {fs : Files} {now : Instant}
  {c : Connection (Journaled σ)}

/-- A query that is sent to a session which is handed out. -/
theorem queried_fetch (hvalid : c.health.isValidAt now = true) (query : String) (d : Duration) :
    Queried now c (now.after d)
      { c with database := (c.session.fetch (server.journaled now) query c.database).2 } := by
  rcases c with ⟨target, session, health, journal⟩
  cases session with
  | unavailable reason => exact ⟨rfl, rfl, le_after _ _, [], rfl, nofun⟩
  | live generation =>
    refine ⟨rfl, rfl, le_after _ _, [.fetched now generation query], rfl, fun other hmem ↦ ?_⟩
    obtain rfl := List.mem_singleton.1 hmem
    exact ⟨.fetched generation query, hvalid⟩

theorem queried_fetchSince (since : Timestamp) :
    Queried now c (fetchSince server.journaled log fs since now c).now
      (fetchSince server.journaled log fs since now c).connection := by
  rw [fetchSince, acquire]
  by_cases hvalid : c.health.isValidAt now = true
  · rw [if_pos hvalid]
    dsimp only
    split
    · exact queried_fetch hvalid _ _
    · exact queried_fetch hvalid _ _
  · rw [if_neg hvalid]
    exact Queried.refl _ _

theorem queried_resume :
    Queried now c (resume server.journaled log fs now c).now
      (resume server.journaled log fs now c).connection := by
  rw [resume]
  rcases fs.ensure (log.destinationFor c.target.name) with ⟨result, fs'⟩
  cases result with
  | error cause => exact Queried.refl _ _
  | ok u =>
    dsimp only
    cases LogFile.readCursor fs' (log.destinationFor c.target.name) with
    | error cause => exact Queried.refl _ _
    | ok since => exact queried_fetchSince since

/-- After its check a target is sent the query of the log, if anything. -/
theorem queried_ask (hstate : state.disabled = false) :
    Queried (c.check server.journaled limits now).now
      (c.check server.journaled limits now).connection
      (ask server.journaled limits log state fs now c).now
      (ask server.journaled limits log state fs now c).connection := by
  rw [ask, if_neg (by rw [hstate]; decide)]
  dsimp only
  cases (c.check server.journaled limits now).result with
  | healthy => exact queried_resume
  | down => exact Queried.refl _ _
  | invalid => exact Queried.refl _ _

/-- A target that is given up is left alone. -/
theorem cycle_of_disabled (hstate : state.disabled = true) :
    cycle server.journaled limits log state fs now c = ⟨.disabled, c, fs, now⟩ := by
  rw [cycle, ask, if_pos hstate]

/-- A cycle inside a backoff does nothing. -/
theorem cycle_of_backoff (hstate : state.disabled = false) (h : c.Guarded limits now)
    (hbackoff : ¬ BackoffsEndBy limits now c.contacts) :
    cycle server.journaled limits log state fs now c =
      ⟨.skipped, { c with health := { c.health with up := false } }, fs, now⟩ := by
  rw [cycle, ask, if_neg (by rw [hstate]; decide), check_of_backoff h hbackoff]

end Tail

/-! ## Operations -/

namespace Monitor

variable {settings : ExporterSettings}

/-- All connections are guarded. -/
def Guards (limits : ConnectionLimits) (m : Monitor (Journaled σ)) : Prop :=
  ∀ target c, m.connection? target = some c → c.Guarded limits m.now

/-- The operation checks a target. -/
def Checks (m : Monitor (Journaled σ)) (target : String) : Operation → Prop
  | .check name => name = target
  | .acquire _ => False
  | .tick => True
  | .tail name => name = target ∧ (m.tailState target).disabled = false
  | .tailAll => (m.tailState target).disabled = false

variable (settings) in
/-- A place for the log of a target other than one. -/
def IsLogOfOther (names : List String) (target : String) (place : Place) : Prop :=
  ∃ other ∈ names, other ≠ target ∧
    place = Files.namedPlace (settings.log.destinationFor other)

variable (settings) in
/-- Some of the targets, but not this one, were asked for something. -/
structure PassedBy (names : List String) (target : String) (m m' : Monitor (Journaled σ)) :
    Prop where
  connection : m'.connection? target = m.connection? target
  tail : m'.tailState target = m.tailState target
  files : ∀ place, ¬ IsLogOfOther settings names target place →
    Files.KeepsFileAt place m.files m'.files

variable {names : List String} {target name : String}

theorem PassedBy.refl (m : Monitor (Journaled σ)) : PassedBy settings names target m m :=
  ⟨rfl, rfl, fun place _ ↦ .refl place m.files⟩

theorem PassedBy.trans {m₁ m₂ m₃ : Monitor (Journaled σ)}
    (h₁ : PassedBy settings names target m₁ m₂) (h₂ : PassedBy settings names target m₂ m₃) :
    PassedBy settings names target m₁ m₃ :=
  ⟨h₂.connection.trans h₁.connection, h₂.tail.trans h₁.tail,
    fun place hplace ↦ (h₁.files place hplace).trans (h₂.files place hplace)⟩

theorem passedBy_check (m : Monitor (Journaled σ)) (hne : name ≠ target) :
    PassedBy settings names target m (m.check server.journaled settings name).2 := by
  cases hfound : m.connection? name with
  | none =>
    rw [check_of_not_found hfound]
    exact .refl m
  | some c =>
    rw [check_of_found hfound]
    have hname : (c.check server.journaled settings.limits m.now).connection.target.name = name :=
      (congrArg Target.name (c.target_check _ _ _)).trans (name_of_connection? hfound)
    exact ⟨(connection?_setConnection hfound hname target).trans (if_neg hne), rfl,
      fun place _ ↦ .refl place m.files⟩

theorem passedBy_tail (m : Monitor (Journaled σ)) (hne : name ≠ target)
    (hmem : ∀ c, m.connection? name = some c → name ∈ names) :
    PassedBy settings names target m (m.tail server.journaled settings name).2 := by
  cases hfound : m.connection? name with
  | none =>
    rw [tail_of_not_found hfound]
    exact .refl m
  | some c =>
    rw [tail_of_found hfound]
    have hname' := name_of_connection? hfound
    have hname : (m.cycleOf server.journaled settings name c).connection.target.name = name :=
      (congrArg Target.name (Tail.target_cycle _ _ _ _ _ _ c)).trans hname'
    refine ⟨(connection?_setConnection hfound hname target).trans (if_neg hne), ?_,
      fun place hplace ↦ ?_⟩
    · rw [tailState, KeyMap.get?_insert, if_neg hne, ← tailState]
    · refine Tail.keepsFileAt_cycle _ _ _ _ _ _ _ fun heq ↦ hplace ⟨name, hmem c hfound, hne, ?_⟩
      rw [heq, hname']

theorem passedBy_tailFrom (began : Instant) (m : Monitor (Journaled σ)) (hne : name ≠ target)
    (hmem : name ∈ names) :
    PassedBy settings names target m (m.tailFrom server.journaled settings began name) := by
  have hpassed : PassedBy settings names target { m with now := began }
      (Monitor.tail server.journaled settings { m with now := began } name).2 :=
    passedBy_tail _ hne fun _ _ ↦ hmem
  exact ⟨hpassed.connection, hpassed.tail, hpassed.files⟩

variable (server settings) in
/-- The cycles of other targets. -/
theorem passedBy_foldl_tailFrom (began : Instant) {others : List String} (hnot : target ∉ others)
    (hothers : ∀ name ∈ others, name ∈ names) (m : Monitor (Journaled σ)) :
    PassedBy settings names target m
        (others.foldl (tailFrom server.journaled settings began) m) ∧
      m.now ≤ (others.foldl (tailFrom server.journaled settings began) m).now := by
  induction others generalizing m with
  | nil => exact ⟨.refl m, Nat.le_refl m.now⟩
  | cons name others ih =>
    rw [List.mem_cons, not_or] at hnot
    obtain ⟨hname, hothers⟩ := List.forall_mem_cons.1 hothers
    obtain ⟨hpassed, hle⟩ := ih hnot.2 hothers (m.tailFrom server.journaled settings began name)
    exact ⟨(passedBy_tailFrom began m (Ne.symm hnot.1) hname).trans hpassed,
      Nat.le_trans (Nat.le_max_left _ _) hle⟩

variable (settings) in
/-- What an operation makes of a target, which it may have checked. -/
structure Handled (names : List String) (target : String) (checked : Prop)
    (c : Connection (Journaled σ)) (m m' : Monitor (Journaled σ)) : Prop where
  le : m.now ≤ m'.now
  connection : ∃ c', m'.connection? target = some c' ∧
    (checked ∧ Connection.Visited settings.limits m.now c m'.now c' ∨ ¬ checked ∧ c' = c)
  tail : ¬ BackoffsEndBy settings.limits m.now c.contacts →
    m'.tailState target = m.tailState target
  files : ¬ BackoffsEndBy settings.limits m.now c.contacts →
    ∀ place, ¬ IsLogOfOther settings names target place → Files.KeepsFileAt place m.files m'.files

theorem PassedBy.handled {m m' : Monitor (Journaled σ)} {checked : Prop}
    {c : Connection (Journaled σ)} (h : PassedBy settings names target m m') (hle : m.now ≤ m'.now)
    (hfound : m.connection? target = some c) (hchecked : ¬ checked) :
    Handled settings names target checked c m m' :=
  ⟨hle, ⟨c, h.connection.trans hfound, .inr ⟨hchecked, rfl⟩⟩, fun _ ↦ h.tail, fun _ ↦ h.files⟩

variable (server) in
theorem handled_check {m : Monitor (Journaled σ)} {c : Connection (Journaled σ)}
    (hfound : m.connection? target = some c) (h : c.Guarded settings.limits m.now) :
    Handled settings names target True c m (m.check server.journaled settings target).2 := by
  have hvisited := Connection.visited_check server h
  have hname := (congrArg Target.name hvisited.target).trans (name_of_connection? hfound)
  rw [check_of_found hfound]
  exact ⟨hvisited.le, ⟨_, (connection?_setConnection hfound hname target).trans (if_pos rfl),
    .inl ⟨trivial, hvisited⟩⟩, fun _ ↦ rfl, fun _ place _ ↦ .refl place m.files⟩

theorem handled_tick {m : Monitor (Journaled σ)} {c : Connection (Journaled σ)}
    (hfound : m.connection? target = some c) (h : c.Guarded settings.limits m.now) :
    Handled settings names target True c m (m.tick server.journaled settings) := by
  have hvisited : Connection.Visited settings.limits m.now c
      (m.scrape server.journaled settings c).now
      (m.scrape server.journaled settings c).connection :=
    Connection.visited_of_queried h Tick.queried_scrapeTarget
  have hle := now_scrape_le_tick server.journaled settings (mem_of_connection? hfound)
  refine ⟨Nat.le_trans hvisited.le hle, ⟨_, ?_, .inl ⟨trivial, hvisited.mono hle⟩⟩, fun _ ↦ rfl,
    fun _ place _ ↦ .refl place m.files⟩
  rw [connection?_tick, hfound, Option.map_some]

variable (server) in
theorem handled_tail {m : Monitor (Journaled σ)} {c : Connection (Journaled σ)}
    (hfound : m.connection? target = some c) (h : c.Guarded settings.limits m.now) :
    Handled settings names target ((m.tailState target).disabled = false) c m
      (m.tail server.journaled settings target).2 := by
  have hname := name_of_connection? hfound
  have hstate (state : TailState) :
      ((m.tails.insert target state).get? target).getD {} = state := by
    rw [KeyMap.get?_insert, if_pos rfl, Option.getD_some]
  rw [tail_of_found hfound]
  cases hdisabled : (m.tailState target).disabled with
  | true =>
    have hcycle : m.cycleOf server.journaled settings target c = ⟨.disabled, c, m.files, m.now⟩ :=
      Tail.cycle_of_disabled hdisabled
    rw [hcycle]
    have hfound' := (connection?_setConnection hfound hname target).trans (if_pos rfl)
    exact ⟨Nat.le_refl m.now, ⟨c, hfound', .inr ⟨by simp, rfl⟩⟩, fun _ ↦ hstate _,
      fun _ place _ ↦ .refl place m.files⟩
  | false =>
    obtain ⟨hconnection, hnow⟩ := Tail.connection_cycle server.journaled settings.limits
      settings.log (m.tailState target) m.files m.now c
    have hvisited : Connection.Visited settings.limits m.now c
        (m.cycleOf server.journaled settings target c).now
        (m.cycleOf server.journaled settings target c).connection := by
      rw [cycleOf, hconnection, hnow]
      exact Connection.visited_of_queried h (Tail.queried_ask hdisabled)
    have hname' := (congrArg Target.name hvisited.target).trans hname
    refine ⟨hvisited.le, ⟨_, (connection?_setConnection hfound hname' target).trans (if_pos rfl),
      .inl ⟨rfl, hvisited⟩⟩, fun hbackoff ↦ ?_, fun hbackoff place _ ↦ ?_⟩
    · have hcycle : m.cycleOf server.journaled settings target c = _ :=
        Tail.cycle_of_backoff hdisabled h hbackoff
      rw [tailState, hcycle]
      exact hstate _
    · have hcycle : m.cycleOf server.journaled settings target c = _ :=
        Tail.cycle_of_backoff hdisabled h hbackoff
      rw [hcycle]
      exact .refl place m.files

/-- What is done with a target counts from the moment at which all that is done with others began
as well. -/
theorem Handled.within {m m₁ m₂ m₃ : Monitor (Journaled σ)} {checked : Prop}
    {c : Connection (Journaled σ)} {later : Instant}
    (h : Handled settings names target checked c { m₁ with now := m.now } m₂)
    (hbefore : PassedBy settings names target m m₁)
    (hafter : PassedBy settings names target { m₂ with now := later } m₃) (hle : m₂.now ≤ m₃.now) :
    Handled settings names target checked c m m₃ := by
  obtain ⟨hnow, ⟨c', hfound, hhandled⟩, htail, hfiles⟩ := h
  refine ⟨Nat.le_trans hnow hle, ⟨c', hafter.connection.trans hfound, ?_⟩, fun hbackoff ↦ ?_,
    fun hbackoff place hplace ↦ ?_⟩
  · exact hhandled.imp_left fun hvisited ↦ ⟨hvisited.1, hvisited.2.mono hle⟩
  · exact hafter.tail.trans ((htail hbackoff).trans hbefore.tail)
  · exact ((hbefore.files place hplace).trans (hfiles hbackoff place hplace)).trans
      (hafter.files place hplace)

/-- Among the cycles that begin at the same moment, each target has its own. -/
theorem handled_tailAll {m : Monitor (Journaled σ)} {c : Connection (Journaled σ)}
    (hnames : m.names.Nodup) (hfound : m.connection? target = some c)
    (h : c.Guarded settings.limits m.now) :
    Handled settings m.names target ((m.tailState target).disabled = false) c m
      (m.tailAll server.journaled settings) := by
  obtain ⟨before, after, hsplit⟩ := List.append_of_mem (mem_names_iff.2 ⟨c, hfound⟩)
  have hnot : target ∉ before ∧ target ∉ after := by
    rw [hsplit, List.nodup_middle] at hnames
    rw [← not_or, ← List.mem_append]
    exact (List.nodup_cons.1 hnames).1
  have hmem : ∀ name, name ∈ before ∨ name ∈ after → name ∈ m.names := by
    intro name hname
    rw [hsplit, List.mem_append, List.mem_cons]
    exact hname.imp_right .inr
  have hbefore := (passedBy_foldl_tailFrom server settings m.now hnot.1
    (fun name hname ↦ hmem name (.inl hname)) m).1
  have hcycles : m.tailAll server.journaled settings =
      after.foldl (tailFrom server.journaled settings m.now)
        ((before.foldl (tailFrom server.journaled settings m.now) m).tailFrom server.journaled
          settings m.now target) := by
    rw [tailAll, hsplit, List.foldl_append, List.foldl_cons]
  rw [hcycles]
  generalize before.foldl (tailFrom server.journaled settings m.now) m = m₁ at hbefore ⊢
  obtain ⟨hafter, hle⟩ := passedBy_foldl_tailFrom server settings m.now hnot.2
    (fun name hname ↦ hmem name (.inr hname)) (m₁.tailFrom server.journaled settings m.now target)
  have hfound' : Monitor.connection? { m₁ with now := m.now } target = some c :=
    hbefore.connection.trans hfound
  have htail : Monitor.tailState { m₁ with now := m.now } target = m.tailState target :=
    hbefore.tail
  have hhandled : Handled settings m.names target _ c _ _ := handled_tail server hfound' h
  rw [htail] at hhandled
  exact hhandled.within hbefore hafter (Nat.le_trans (Nat.le_max_right _ _) hle)

variable (server settings) in
/-- Operations take time, if anything. -/
theorem Guards.le_now_check {m : Monitor (Journaled σ)} (h : m.Guards settings.limits)
    (name : String) : m.now ≤ (m.check server.journaled settings name).2.now := by
  cases hfound : m.connection? name with
  | none => exact Nat.le_of_eq (by rw [check_of_not_found hfound])
  | some c =>
    have hhandled : Handled settings m.names name True c m _ :=
      handled_check server hfound (h name c hfound)
    exact hhandled.le

variable (server settings) in
theorem Guards.le_now_tail {m : Monitor (Journaled σ)} (h : m.Guards settings.limits)
    (name : String) : m.now ≤ (m.tail server.journaled settings name).2.now := by
  cases hfound : m.connection? name with
  | none => exact Nat.le_of_eq (by rw [tail_of_not_found hfound])
  | some c =>
    have hhandled : Handled settings m.names name _ c m _ :=
      handled_tail server hfound (h name c hfound)
    exact hhandled.le

variable (server) in
/-- What an operation makes of a target. -/
theorem handled_perform {m : Monitor (Journaled σ)} {c : Connection (Journaled σ)}
    (hnames : m.names.Nodup) (hguards : m.Guards settings.limits)
    (hfound : m.connection? target = some c) (operation : Operation) :
    Handled settings m.names target (m.Checks target operation) c m
      (m.perform server.journaled settings operation) := by
  have hguarded := hguards target c hfound
  cases operation with
  | check name =>
    by_cases hname : name = target
    · subst hname
      have hchecks : m.Checks name (.check name) = True := eq_self name
      rw [hchecks]
      exact handled_check server hfound hguarded
    · have hle := hguards.le_now_check server settings name
      exact (passedBy_check m hname).handled hle hfound hname
  | acquire name => exact (PassedBy.refl m).handled (Nat.le_refl m.now) hfound not_false
  | tick => exact handled_tick hfound hguarded
  | tail name =>
    by_cases hname : name = target
    · subst hname
      have hchecks : m.Checks name (.tail name) = ((m.tailState name).disabled = false) := by
        rw [Checks, eq_self, true_and]
      rw [hchecks]
      exact handled_tail server hfound hguarded
    · have hpassed : PassedBy settings m.names target m
          (m.tail server.journaled settings name).2 :=
        passedBy_tail m hname fun _ hfound ↦ mem_names_iff.2 ⟨_, hfound⟩
      exact hpassed.handled (hguards.le_now_tail server settings name) hfound fun h ↦ hname h.1
  | tailAll => exact handled_tailAll hnames hfound hguarded

/-! ## Runs -/

variable (server settings) in
/-- The states that the exporter comes to, with the journals of all its targets. -/
inductive Reached : Monitor (Journaled σ) → Prop
  /-- The exporter begins, and may have filled its pools. -/
  | start {m : Monitor (Journaled σ)} (hnames : m.names.Nodup)
      (hbegun : ∀ c ∈ m.connections, c.Begun server settings.limits m.now) : Reached m
  /-- Time passes, and anything happens around the connections. -/
  | between {m m' : Monitor (Journaled σ)} (h : Reached m)
      (hconnections : m'.connections = m.connections) (hnow : m.now ≤ m'.now) : Reached m'
  | perform {m : Monitor (Journaled σ)} (h : Reached m) (operation : Operation) :
      Reached (m.perform server.journaled settings operation)

/-- The invariant of a run. -/
theorem Reached.guards {m : Monitor (Journaled σ)} (h : Reached server settings m) :
    m.names.Nodup ∧ m.Guards settings.limits := by
  induction h with
  | start hnames hbegun =>
    exact ⟨hnames, fun target c hfound ↦
      Connection.guarded_of_begun (hbegun c (mem_of_connection? hfound))⟩
  | @between m m' _ hconnections hnow ih =>
    obtain ⟨hnames, hguards⟩ := ih
    have hsame : m'.names = m.names := by rw [names, hconnections, ← names]
    refine ⟨hsame ▸ hnames, fun target c hfound ↦ ?_⟩
    rw [connection?, hconnections, ← connection?] at hfound
    exact (hguards target c hfound).mono hnow
  | @perform m _ operation ih =>
    obtain ⟨hnames, hguards⟩ := ih
    refine ⟨(names_perform m operation).symm ▸ hnames, fun target c' hfound' ↦ ?_⟩
    have hmem := mem_names_iff.2 ⟨c', hfound'⟩
    rw [names_perform] at hmem
    obtain ⟨c, hfound⟩ := mem_names_iff.1 hmem
    obtain ⟨hle, ⟨c'', hfound'', hcases⟩, -, -⟩ :=
      handled_perform server hnames hguards hfound operation
    obtain rfl := Option.some.inj (hfound'.symm.trans hfound'')
    rcases hcases with ⟨-, hvisited⟩ | ⟨-, rfl⟩
    · exact hvisited.guarded
    · exact (hguards target _ hfound).mono hle

variable (server settings) in
/-- A target is not asked for anything, whatever is done, and all that is published for it is that
it is not up. -/
structure LeavesAlone (m : Monitor (Journaled σ)) (target : String)
    (c : Connection (Journaled σ)) : Prop where
  check : (m.check server.journaled settings target).1 = some .invalid
  acquire : m.acquire target = some (.error (.targetUnavailable target))
  tick : m.published server.journaled settings c =
    [Tick.upObservation settings.namespaceName c.target false]
  tail : (m.tail server.journaled settings target).1 = none
  contacts : ∀ operation, ∃ c',
    (m.perform server.journaled settings operation).connection? target = some c' ∧
      c'.contacts = c.contacts
  failures : ∀ operation,
    (m.perform server.journaled settings operation).tailState target = m.tailState target
  files : ∀ operation place, ¬ IsLogOfOther settings m.names target place →
    Files.KeepsFileAt place m.files (m.perform server.journaled settings operation).files

variable (server) in
theorem leavesAlone_of_backoff {m : Monitor (Journaled σ)} {c : Connection (Journaled σ)}
    (hnames : m.names.Nodup) (hguards : m.Guards settings.limits)
    (hfound : m.connection? target = some c)
    (hbackoff : ¬ BackoffsEndBy settings.limits m.now c.contacts) :
    m.LeavesAlone server settings target c := by
  have hguarded := hguards target c hfound
  have hhandled := handled_perform server hnames hguards hfound
  refine ⟨?_, ?_, ?_, ?_, fun operation ↦ ?_, fun operation ↦ (hhandled operation).tail hbackoff,
    fun operation ↦ (hhandled operation).files hbackoff⟩
  · rw [check_of_found hfound, Connection.check_of_backoff hguarded hbackoff]
  · rw [acquire, hfound, Option.map_some, Connection.acquire_of_backoff hguarded hbackoff,
      name_of_connection? hfound]
  · rw [published, scrape, Tick.result_scrapeTarget_of_backoff hguarded hbackoff,
      Tick.observations_absent]
  · rw [tail_of_found hfound, cycleOf]
    cases hdisabled : (m.tailState target).disabled with
    | true =>
      rw [Tail.cycle_of_disabled hdisabled]
      rfl
    | false =>
      rw [Tail.cycle_of_backoff hdisabled hguarded hbackoff]
      rfl
  · obtain ⟨c', hfound', ⟨-, hvisited⟩ | ⟨-, rfl⟩⟩ := (hhandled operation).connection
    · exact ⟨c', hfound', hvisited.spared hbackoff⟩
    · exact ⟨c', hfound', rfl⟩

/-- In every state that the exporter comes to, no contact with a target came too early after one
that rejected its credentials. Up to the end of the backoff that began with a rejection all
operations leave the target alone, and from then on all that check it contact it at once. -/
theorem Reached.backoff_isolates {m : Monitor (Journaled σ)} (h : Reached server settings m)
    {target : String} {c : Connection (Journaled σ)} (hfound : m.connection? target = some c) :
    Isolated settings.limits c.contacts ∧
      (∀ rejection ∈ c.contacts, ∀ rejectedAt, rejection.RejectsAt settings.limits rejectedAt →
        m.now < rejectedAt.after settings.limits.backoff → m.LeavesAlone server settings target c) ∧
      ((∀ rejection ∈ c.contacts, ∀ rejectedAt, rejection.RejectsAt settings.limits rejectedAt →
          rejectedAt.after settings.limits.backoff ≤ m.now) →
        ∀ operation, m.Checks target operation → ∃ c',
          (m.perform server.journaled settings operation).connection? target = some c' ∧
            AsksAt m.now c.contacts c'.contacts) ∧
      (m.tick server.journaled settings).scraper.snapshot.observations =
        m.connections.flatMap (m.published server.journaled settings) := by
  obtain ⟨hnames, hguards⟩ := h.guards
  refine ⟨(hguards target c hfound).isolated, fun rejection hmem rejectedAt hrejects hunder ↦ ?_,
    fun hended operation hchecks ↦ ?_, observations_tick m⟩
  · refine leavesAlone_of_backoff server hnames hguards hfound fun hended ↦ ?_
    have hover := backoffsEndBy_iff.1 hended rejection hmem rejectedAt hrejects
    exact absurd hunder (Nat.not_lt.2 hover)
  · obtain ⟨c', hfound', ⟨-, hvisited⟩ | ⟨hnot, -⟩⟩ :=
      (handled_perform server hnames hguards hfound operation).connection
    · exact ⟨c', hfound', hvisited.asked (backoffsEndBy_iff.2 hended)⟩
    · exact absurd hchecks hnot

/-! ### A rejected ping

A check meets a database that rejects the credentials, at the moment zero. -/

/-- The contact with that database. -/
def rejectedPing : Contact := .pinged .zero 1 (.atOnce (.error (.invalidCredentials "28P01" "no")))

/-- The target of that database, before the check. -/
def unchecked : Connection (Journaled Rehearsal) where
  target := ⟨"db", { url := "" }, [("database", "db")]⟩
  session := .live 1
  health := {}
  database :=
    ⟨{ opens := 1, pingScript := [some (.invalidCredentials "28P01" "no")] }, []⟩

/-- The exporter before the check. -/
def beforeRejection : Monitor (Journaled Rehearsal) :=
  ⟨⟨.start .empty [] [unchecked.target], [unchecked], {}, .zero⟩, [], .empty⟩

/-- The exporter some time after the check. -/
def afterRejection (now : Instant) : Monitor (Journaled Rehearsal) :=
  { beforeRejection.perform Rehearsal.server.steady.journaled {} (.check "db") with now := now }

theorem reached_afterRejection (now : Instant) :
    Reached Rehearsal.server.steady {} (afterRejection now) := by
  have hplain : unchecked.plain = .start Rehearsal.server.steady .zero unchecked.target
      { pingScript := [some (.invalidCredentials "28P01" "no")] } := rfl
  have hstart : Reached Rehearsal.server.steady {} beforeRejection := by
    refine .start (List.nodup_singleton _) fun c hmem ↦ ?_
    obtain rfl := List.mem_singleton.1 hmem
    exact .opened hplain rfl (Nat.le_refl 0)
  exact .between (hstart.perform (.check "db")) rfl (Nat.zero_le now)

/-- A nanosecond before the end of the backoff the target is left alone, and at its end a check
contacts it. -/
theorem backoff_isolates_rejectedPing : ∃ c : Connection (Journaled Rehearsal),
    c.contacts = [rejectedPing] ∧
    (Reached Rehearsal.server.steady {} (afterRejection 299999999999) ∧
      (afterRejection 299999999999).connection? "db" = some c ∧
      (afterRejection 299999999999).LeavesAlone Rehearsal.server.steady {} "db" c) ∧
    Reached Rehearsal.server.steady {} (afterRejection 300000000000) ∧
      (afterRejection 300000000000).connection? "db" = some c ∧
      ∃ c', ((afterRejection 300000000000).perform Rehearsal.server.steady.journaled {}
        (.check "db")).connection? "db" = some c' ∧ AsksAt 300000000000 c.contacts c'.contacts := by
  obtain ⟨c, hfound, hcontacts⟩ : ∃ c, (∀ now, (afterRejection now).connection? "db" = some c) ∧
      c.contacts = [rejectedPing] := ⟨_, fun _ ↦ rfl, rfl⟩
  have hend : rejectedPing.backoffEnd? {} = some 300000000000 := rfl
  have hinside := reached_afterRejection 299999999999
  have hover := reached_afterRejection 300000000000
  refine ⟨c, hcontacts, ⟨hinside, hfound _, ?_⟩, hover, hfound _, ?_⟩
  · obtain ⟨-, halone, -⟩ := hinside.backoff_isolates (hfound _)
    obtain ⟨rejectedAt, hrejects, hlast⟩ := backoffEnd?_eq_some_iff.1 hend
    refine halone rejectedPing (hcontacts ▸ List.mem_singleton_self _) rejectedAt hrejects ?_
    rw [hlast]
    decide
  · obtain ⟨-, -, hasks, -⟩ := hover.backoff_isolates (hfound _)
    refine hasks (backoffsEndBy_iff.1 ?_) (.check "db") rfl
    rw [hcontacts]
    refine backoffsEndBy_cons (fun backoffEnd hlast ↦ ?_) nofun
    obtain rfl := Option.some.inj (hend.symm.trans hlast)
    exact Nat.le_refl _

end Monitor

end Telemetry
