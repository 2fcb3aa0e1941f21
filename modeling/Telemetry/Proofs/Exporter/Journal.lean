import Telemetry.Proofs.Exporter.Monitor
import Telemetry.Proofs.Target.Journal

/-!
# Journals of all targets

Ticks and cycles of log tailing do with databases behind journals what they do with the databases.
So a run of the exporter leaves the same whether or not there are journals (`Monitor.plain_perform`),
and what the journals say holds of every run.
-/

namespace Telemetry

variable {σ : Type} {server : Clocked σ} {limits : ConnectionLimits}

namespace Session

theorem plain_fetch (session : Session) (now : Instant) (query : String) (s : Journaled σ) :
    session.fetch (server now) query s.database =
      ((session.fetch (server.journaled now) query s).1,
        (session.fetch (server.journaled now) query s).2.database) := by
  cases session with
  | live generation => rfl
  | unavailable reason => rfl

end Session

namespace Tick

theorem plain_dispatch (session : Session) (now : Instant) (definitions : List Definition)
    (s : Journaled σ) :
    dispatch server session now definitions s.database =
      ((dispatch server.journaled session now definitions s).1,
        (dispatch server.journaled session now definitions s).2.database) := by
  induction definitions generalizing s with
  | nil => rfl
  | cons d definitions ih =>
    rw [dispatch, dispatch, Session.plain_fetch]
    dsimp only
    rw [ih]

variable (namespaceName : String) (plan : Plan) (cache : MetricCache)

theorem plain_scrapeSession (started : Instant) (session : Session) (now : Instant)
    (c : Connection (Journaled σ)) :
    scrapeSession server namespaceName plan cache started session now c.plain =
      (scrapeSession server.journaled namespaceName plan cache started session now c).plain := by
  rw [scrapeSession, scrapeSession]
  simp only [Connection.plain, plain_dispatch]
  rfl

/-- A tick does with a target whose database is behind a journal what it does with the target. -/
theorem plain_scrapeTarget (started : Instant) (c : Connection (Journaled σ)) :
    scrapeTarget server limits namespaceName plan cache started c.plain =
      (scrapeTarget server.journaled limits namespaceName plan cache started c).plain := by
  rw [scrapeTarget, scrapeTarget, Connection.plain_check]
  generalize c.check server.journaled limits started = checked
  rcases checked with ⟨result, c', now⟩
  cases result with
  | down => rfl
  | invalid => rfl
  | healthy =>
    have hacquire : c'.plain.acquire now = c'.acquire now := rfl
    dsimp only [Settled.plain]
    rw [hacquire]
    cases c'.acquire now with
    | error e => rfl
    | ok session => exact plain_scrapeSession namespaceName plan cache started session now c'

end Tick

namespace Tail

variable (log : LogSettings)

/-- What a cycle has found out, without the journal. -/
def Inquiry.plain (asked : Inquiry (Journaled σ)) : Inquiry σ :=
  ⟨asked.answer, asked.connection.plain, asked.files, asked.now⟩

/-- What a cycle leaves behind, without the journal. -/
def Cycle.plain (cycle : Cycle (Journaled σ)) : Cycle σ :=
  ⟨cycle.outcome, cycle.connection.plain, cycle.files, cycle.now⟩

theorem plain_fetchSince (fs : Files) (since : Timestamp) (now : Instant)
    (c : Connection (Journaled σ)) :
    fetchSince server log fs since now c.plain =
      (fetchSince server.journaled log fs since now c).plain := by
  have hacquire : c.plain.acquire now = c.acquire now := rfl
  rw [fetchSince, fetchSince, hacquire]
  cases c.acquire now with
  | error e => rfl
  | ok session =>
    dsimp only [Connection.plain]
    rw [session.plain_fetch]
    generalize session.fetch (server.journaled now) (queryFrom log since) c.database = sent
    rcases sent with ⟨reply, journal⟩
    dsimp only
    cases reply.within c.target.settings.queryTimeout with
    | error e => rfl
    | ok rows => rfl

theorem plain_resume (fs : Files) (now : Instant) (c : Connection (Journaled σ)) :
    resume server log fs now c.plain = (resume server.journaled log fs now c).plain := by
  have htarget : c.plain.target = c.target := rfl
  rw [resume, resume, htarget]
  rcases fs.ensure (log.destinationFor c.target.name) with ⟨result, fs'⟩
  cases result with
  | error cause => rfl
  | ok u =>
    dsimp only
    cases LogFile.readCursor fs' (log.destinationFor c.target.name) with
    | error cause => rfl
    | ok since => exact plain_fetchSince log fs' since now c

theorem plain_ask (state : TailState) (fs : Files) (now : Instant)
    (c : Connection (Journaled σ)) :
    ask server limits log state fs now c.plain =
      (ask server.journaled limits log state fs now c).plain := by
  rw [ask, ask, Connection.plain_check]
  generalize c.check server.journaled limits now = checked
  rcases checked with ⟨result, c', now'⟩
  cases state.disabled with
  | true => rfl
  | false =>
    cases result with
    | healthy => exact plain_resume log fs now' c'
    | down => rfl
    | invalid => rfl

/-- A cycle does with a database behind a journal what it does with the database. -/
theorem plain_cycle (state : TailState) (fs : Files) (now : Instant)
    (c : Connection (Journaled σ)) :
    cycle server limits log state fs now c.plain =
      (cycle server.journaled limits log state fs now c).plain := by
  have htarget : c.plain.target = c.target := rfl
  rw [cycle, cycle, plain_ask, htarget]
  generalize ask server.journaled limits log state fs now c = asked
  rcases asked with ⟨answer, c', fs', now'⟩
  cases answer with
  | error outcome => rfl
  | ok rows => rfl

end Tail

namespace Monitor

variable {settings : ExporterSettings}

/-- The state without the journals. -/
def plain (m : Monitor (Journaled σ)) : Monitor σ :=
  ⟨⟨m.scraper, m.connections.map Connection.plain, m.meters, m.now⟩, m.tails, m.files⟩

theorem names_plain (m : Monitor (Journaled σ)) : m.plain.names = m.names := by
  rw [names, names, plain, List.map_map]
  rfl

theorem connection?_plain (m : Monitor (Journaled σ)) (target : String) :
    m.plain.connection? target = (m.connection? target).map Connection.plain := by
  rw [connection?, plain, List.find?_map]
  rfl

theorem setConnection_plain (m : Monitor (Journaled σ)) (c : Connection (Journaled σ)) :
    m.plain.setConnection c.plain = (m.setConnection c).plain := by
  rw [setConnection, setConnection, plain, plain]
  simp only [List.map_map]
  congr 2
  refine List.map_congr_left fun present _ ↦ ?_
  exact (apply_ite Connection.plain _ _ _).symm

theorem plain_check (m : Monitor (Journaled σ)) (target : String) :
    m.plain.check server settings target =
      ((m.check server.journaled settings target).1,
        (m.check server.journaled settings target).2.plain) := by
  rw [check, check, connection?_plain]
  cases m.connection? target with
  | none => rfl
  | some c =>
    have hnow : m.plain.now = m.now := rfl
    simp only [Option.map_some, hnow, Connection.plain_check]
    dsimp only [Settled.plain]
    rw [setConnection_plain]
    rfl

variable (server settings) in
theorem plain_tail (m : Monitor (Journaled σ)) (target : String) :
    m.plain.tail server settings target =
      ((m.tail server.journaled settings target).1,
        (m.tail server.journaled settings target).2.plain) := by
  rw [tail, tail, connection?_plain]
  cases m.connection? target with
  | none => rfl
  | some c =>
    have hnow : m.plain.now = m.now := rfl
    simp only [Option.map_some, hnow, Tail.plain_cycle]
    dsimp only [Tail.Cycle.plain]
    rw [setConnection_plain]
    rfl

theorem plain_tailFrom (began : Instant) (m : Monitor (Journaled σ)) (target : String) :
    m.plain.tailFrom server settings began target =
      (m.tailFrom server.journaled settings began target).plain := by
  have htail := plain_tail server settings { m with now := began } target
  have hbegan : plain { m with now := began } = { m.plain with now := began } := rfl
  rw [hbegan] at htail
  rw [tailFrom, tailFrom, htail]
  rfl

theorem plain_foldl_tailFrom (began : Instant) (targets : List String)
    (m : Monitor (Journaled σ)) :
    targets.foldl (tailFrom server settings began) m.plain =
      (targets.foldl (tailFrom server.journaled settings began) m).plain := by
  induction targets generalizing m with
  | nil => rfl
  | cons target targets ih => rw [List.foldl_cons, List.foldl_cons, plain_tailFrom, ih]

theorem plain_scrapeAll (namespaceName : String) (started : Instant) (s : Scraper)
    (connections : List (Connection (Journaled σ))) :
    s.scrapeAll server limits namespaceName started (connections.map Connection.plain) =
      (s.scrapeAll server.journaled limits namespaceName started connections).map
        Settled.plain := by
  rw [Scraper.scrapeAll, Scraper.scrapeAll, List.map_map, List.map_map]
  exact List.map_congr_left fun c _ ↦ Tick.plain_scrapeTarget namespaceName s.plan s.cache started c

theorem plain_tick (m : Monitor (Journaled σ)) :
    m.plain.tick server settings = (m.tick server.journaled settings).plain := by
  have htargets : m.plain.connections.map (·.target) = m.connections.map (·.target) := by
    rw [plain, List.map_map]
    rfl
  rw [tick, tick, Scraper.tick, Scraper.tick, htargets]
  simp only [plain, plain_scrapeAll, List.map_map]
  rfl

/-- Operations do with databases behind journals what they do with the databases. -/
theorem plain_perform (m : Monitor (Journaled σ)) (operation : Operation) :
    m.plain.perform server settings operation =
      (m.perform server.journaled settings operation).plain := by
  cases operation with
  | check target => exact congrArg Prod.snd (plain_check m target)
  | acquire target => rfl
  | tick => exact plain_tick m
  | tail target => exact congrArg Prod.snd (plain_tail server settings m target)
  | tailAll =>
    rw [perform, perform, tailAll, tailAll, names_plain]
    exact plain_foldl_tailFrom m.now m.names m

end Monitor

end Telemetry
