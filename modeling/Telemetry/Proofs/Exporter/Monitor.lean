import Telemetry.Exporter.Basic
import Telemetry.Proofs.Target.Connection
import Telemetry.Proofs.Tick.Aggregate
import Telemetry.Proofs.Tick.Contribution

/-!
# What is done with all targets

The operations of the exporter that ask its targets for something: checks, ticks and cycles of log
tailing. They are stated here for databases that may answer differently at each moment; on one
that always answers alike they are those of the exporter (`Exporter.perform_monitor`).

What an operation does to one target is read off by name. A check or a cycle concerns the target
it is for, a tick concerns all of them, and so do the cycles that begin at the same moment.
-/

namespace Telemetry

/-- The part of the exporter that its operations change. -/
structure Monitor (σ : Type) extends Scraper.TickState σ where
  /-- What is kept about the tailing of each target. -/
  tails : KeyMap TailState
  files : Files

/-- Something that is done with the targets. -/
inductive Operation where
  | check (target : String)
  /-- Asks for the session of a target. -/
  | acquire (target : String)
  | tick
  /-- A cycle of log tailing for a target. -/
  | tail (target : String)
  /-- A cycle for every target, all at the same time. -/
  | tailAll
  deriving DecidableEq, Repr

namespace Monitor

variable {σ : Type}

/-- The names of the targets. -/
def names (m : Monitor σ) : List String := m.connections.map (·.target.name)

/-- The connection of a target. -/
def connection? (m : Monitor σ) (target : String) : Option (Connection σ) :=
  m.connections.find? (·.target.name == target)

/-- Puts a connection in the place of that of the same target. -/
def setConnection (m : Monitor σ) (c : Connection σ) : Monitor σ :=
  { m with connections := m.connections.map fun present ↦
      if present.target.name = c.target.name then c else present }

/-- What is kept about the tailing of a target. -/
def tailState (m : Monitor σ) (target : String) : TailState := (m.tails.get? target).getD {}

/-- The session of a target, if it is handed out. -/
def acquire (m : Monitor σ) (target : String) : Option (Except ScrapeError Session) :=
  (m.connection? target).map (·.acquire m.now)

variable (server : Clocked σ) (settings : ExporterSettings)

/-- Checks a target. -/
def check (m : Monitor σ) (target : String) : Option Health × Monitor σ :=
  match m.connection? target with
  | none => (none, m)
  | some c =>
    let checked := c.check server settings.limits m.now
    (some checked.result, { m.setConnection checked.connection with now := checked.now })

/-- Runs a tick. -/
def tick (m : Monitor σ) : Monitor σ :=
  { m with
    toTickState := Scraper.tick server settings.limits settings.namespaceName m.files
      m.toTickState }

/-- Runs a cycle of log tailing for a target. -/
def tail (m : Monitor σ) (target : String) : Option Nat × Monitor σ :=
  match m.connection? target with
  | none => (none, m)
  | some c =>
    let state := m.tailState target
    let cycle := Tail.cycle server settings.limits settings.log state m.files m.now c
    (cycle.outcome.count?,
      { m.setConnection cycle.connection with
        files := cycle.files
        tails := m.tails.insert target (cycle.outcome.update state)
        meters := Exporter.recordCycle m.meters settings.namespaceName target cycle.outcome
        now := cycle.now })

/-- Runs a cycle for one of several targets that all began at some moment. -/
def tailFrom (began : Instant) (m : Monitor σ) (target : String) : Monitor σ :=
  let tailed := ({ m with now := began }.tail server settings target).2
  { tailed with now := max m.now tailed.now }

/-- Runs a cycle of log tailing for every target. All begin at the same moment. -/
def tailAll (m : Monitor σ) : Monitor σ := m.names.foldl (tailFrom server settings m.now) m

/-- The state after an operation. -/
def perform (m : Monitor σ) : Operation → Monitor σ
  | .check target => (m.check server settings target).2
  | .acquire _ => m
  | .tick => m.tick server settings
  | .tail target => (m.tail server settings target).2
  | .tailAll => m.tailAll server settings

variable {server settings}

/-! ## Looking up a target -/

theorem name_of_connection? {m : Monitor σ} {target : String} {c : Connection σ}
    (h : m.connection? target = some c) : c.target.name = target := by
  simpa using List.find?_some h

theorem mem_of_connection? {m : Monitor σ} {target : String} {c : Connection σ}
    (h : m.connection? target = some c) : c ∈ m.connections := List.mem_of_find?_eq_some h

theorem mem_names_iff {m : Monitor σ} {target : String} :
    target ∈ m.names ↔ ∃ c, m.connection? target = some c := by
  rw [names, List.mem_map, ← Option.isSome_iff_exists, connection?, List.find?_isSome]
  simp

/-- Connections that stay those of their targets are looked up as before. -/
theorem find?_map_connections {connections : List (Connection σ)} {f : Connection σ → Connection σ}
    (hf : ∀ c, (f c).target.name = c.target.name) (target : String) :
    (connections.map f).find? (·.target.name == target) =
      (connections.find? (·.target.name == target)).map f := by
  have hname : ((fun c : Connection σ ↦ c.target.name == target) ∘ f) =
      fun c ↦ c.target.name == target := funext fun c ↦ by rw [Function.comp_apply, hf]
  rw [List.find?_map, hname]

theorem name_of_setConnection (c present : Connection σ) :
    (if present.target.name = c.target.name then c else present).target.name =
      present.target.name := by
  by_cases h : present.target.name = c.target.name
  · rw [if_pos h, h]
  · rw [if_neg h]

theorem names_setConnection (m : Monitor σ) (c : Connection σ) :
    (m.setConnection c).names = m.names := by
  rw [names, names, setConnection, List.map_map]
  exact List.map_congr_left fun present _ ↦ name_of_setConnection c present

/-- The connection of one target is another one, those of all others are the same. -/
theorem connection?_setConnection {m : Monitor σ} {c c' : Connection σ} {target : String}
    (hfound : m.connection? target = some c) (hname : c'.target.name = target) (other : String) :
    (m.setConnection c').connection? other =
      if target = other then some c' else m.connection? other := by
  rw [connection?, setConnection, find?_map_connections (name_of_setConnection c'), ← connection?]
  by_cases hother : target = other
  · subst hother
    rw [if_pos rfl, hfound, Option.map_some, if_pos ((name_of_connection? hfound).trans hname.symm)]
  · rw [if_neg hother]
    cases hpresent : m.connection? other with
    | none => rfl
    | some present =>
      rw [Option.map_some, if_neg]
      rw [name_of_connection? hpresent, hname]
      exact fun h ↦ hother h.symm

/-! ## Single operations -/

theorem check_of_found {m : Monitor σ} {target : String} {c : Connection σ}
    (hfound : m.connection? target = some c) :
    m.check server settings target =
      (some (c.check server settings.limits m.now).result,
        { m.setConnection (c.check server settings.limits m.now).connection with
          now := (c.check server settings.limits m.now).now }) := by
  rw [check, hfound]

variable (server settings) in
/-- The cycle that is run for a target with some connection. -/
def cycleOf (m : Monitor σ) (target : String) (c : Connection σ) : Tail.Cycle σ :=
  Tail.cycle server settings.limits settings.log (m.tailState target) m.files m.now c

theorem tail_of_found {m : Monitor σ} {target : String} {c : Connection σ}
    (hfound : m.connection? target = some c) :
    m.tail server settings target =
      ((m.cycleOf server settings target c).outcome.count?,
        { m.setConnection (m.cycleOf server settings target c).connection with
          files := (m.cycleOf server settings target c).files
          tails := m.tails.insert target
            ((m.cycleOf server settings target c).outcome.update (m.tailState target))
          meters := Exporter.recordCycle m.meters settings.namespaceName target
            (m.cycleOf server settings target c).outcome
          now := (m.cycleOf server settings target c).now }) := by
  rw [tail, hfound]
  rfl

theorem check_of_not_found {m : Monitor σ} {target : String} (h : m.connection? target = none) :
    m.check server settings target = (none, m) := by
  rw [check, h]

theorem tail_of_not_found {m : Monitor σ} {target : String} (h : m.connection? target = none) :
    m.tail server settings target = (none, m) := by
  rw [tail, h]

variable (server settings) in
/-- What a tick does with one target. -/
def scrape (m : Monitor σ) (c : Connection σ) : Settled σ Contribution :=
  let begun := (m.scraper.reload settings.namespaceName m.files (m.connections.map (·.target))
    m.meters).1
  Tick.scrapeTarget server settings.limits settings.namespaceName begun.plan begun.cache m.now c

variable (server settings) in
/-- What a tick publishes for one target. -/
def published (m : Monitor σ) (c : Connection σ) : List Observation :=
  (m.scrape server settings c).result.observations settings.namespaceName

theorem connections_tick (m : Monitor σ) :
    (m.tick server settings).connections =
      m.connections.map fun c ↦ (m.scrape server settings c).connection := by
  rw [tick, Scraper.tick]
  dsimp only
  rw [Scraper.scrapeAll, List.map_map]
  rfl

theorem connection?_tick (m : Monitor σ) (target : String) :
    (m.tick server settings).connection? target =
      (m.connection? target).map fun c ↦ (m.scrape server settings c).connection := by
  rw [connection?, connections_tick, find?_map_connections, ← connection?]
  exact fun c ↦ congrArg Target.name (Tick.target_scrapeTarget server settings.limits _ _ _ m.now c)

variable (server settings) in
theorem now_scrape_le_tick {m : Monitor σ} {c : Connection σ} (h : c ∈ m.connections) :
    (m.scrape server settings c).now ≤ (m.tick server settings).now := by
  refine Tick.le_foldl_max (.inr ?_)
  rw [Scraper.scrapeAll, List.map_map]
  exact List.mem_map_of_mem h

/-- A tick publishes what its targets contribute, one after the other. -/
theorem observations_tick (m : Monitor σ) :
    (m.tick server settings).scraper.snapshot.observations =
      m.connections.flatMap (m.published server settings) := by
  rw [tick, Scraper.tick]
  dsimp only
  rw [Tick.observations_aggregate, List.nil_append, Scraper.scrapeAll, List.map_map,
    List.flatMap_map]
  rfl

/-! ## The targets stay -/

theorem names_check (m : Monitor σ) (target : String) :
    (m.check server settings target).2.names = m.names := by
  cases hfound : m.connection? target with
  | none => rw [check_of_not_found hfound]
  | some c =>
    rw [check_of_found hfound]
    exact names_setConnection m _

theorem names_tail (m : Monitor σ) (target : String) :
    (m.tail server settings target).2.names = m.names := by
  cases hfound : m.connection? target with
  | none => rw [tail_of_not_found hfound]
  | some c =>
    rw [tail_of_found hfound]
    exact names_setConnection m _

theorem names_foldl_tailFrom (began : Instant) (targets : List String) (m : Monitor σ) :
    (targets.foldl (tailFrom server settings began) m).names = m.names := by
  induction targets generalizing m with
  | nil => rfl
  | cons target targets ih => exact (ih _).trans (names_tail { m with now := began } target)

theorem names_tick (m : Monitor σ) : (m.tick server settings).names = m.names := by
  rw [names, connections_tick, List.map_map]
  exact List.map_congr_left fun c _ ↦
    congrArg Target.name (Tick.target_scrapeTarget server settings.limits _ _ _ m.now c)

theorem names_perform (m : Monitor σ) (operation : Operation) :
    (m.perform server settings operation).names = m.names := by
  cases operation with
  | check target => exact names_check m target
  | acquire target => rfl
  | tick => exact names_tick m
  | tail target => exact names_tail m target
  | tailAll => exact names_foldl_tailFrom m.now m.names m

end Monitor

/-! ## The exporter -/

namespace Exporter

variable {σ : Type}

/-- The part of the exporter that its operations change. -/
def monitor (x : Exporter σ) : Monitor σ :=
  ⟨⟨x.scraper, x.connections, x.meters, x.now⟩, x.tails, x.files⟩

/-- The exporter after an operation. -/
def perform (x : Exporter σ) : Operation → Exporter σ
  | .check target => (x.check target).2
  | .acquire _ => x
  | .tick => x.tick
  | .tail target => (x.tail target).2
  | .tailAll => x.tailAll

theorem check_monitor (x : Exporter σ) (target : String) :
    x.monitor.check x.server.steady x.settings target =
      ((x.check target).1, (x.check target).2.monitor) := by
  have hfound : x.monitor.connection? target = x.connection? target := rfl
  rw [Monitor.check, check, settle, hfound]
  cases x.connection? target with
  | none => rfl
  | some c => rfl

theorem tail_monitor (x : Exporter σ) (target : String) :
    x.monitor.tail x.server.steady x.settings target =
      ((x.tail target).1, (x.tail target).2.monitor) := by
  have hfound : x.monitor.connection? target = x.connection? target := rfl
  rw [Monitor.tail, tail, hfound]
  cases x.connection? target with
  | none => rfl
  | some c => rfl

/-- Runs a cycle for one of several targets that all began at some moment. -/
def tailFrom (began : Instant) (x : Exporter σ) (target : String) : Exporter σ :=
  let tailed := ({ x with now := began }.tail target).2
  { tailed with now := max x.now tailed.now }

/-- A cycle changes neither the settings nor what databases answer. -/
theorem settings_tailFrom (began : Instant) (x : Exporter σ) (target : String) :
    (x.tailFrom began target).settings = x.settings ∧
      (x.tailFrom began target).server = x.server := by
  rw [tailFrom, tail]
  cases ({ x with now := began } : Exporter σ).connection? target with
  | none => exact ⟨rfl, rfl⟩
  | some c => exact ⟨rfl, rfl⟩

theorem tailFrom_monitor (began : Instant) (x : Exporter σ) (target : String) :
    x.monitor.tailFrom x.server.steady x.settings began target =
      (x.tailFrom began target).monitor := by
  have htail := tail_monitor { x with now := began } target
  rw [Monitor.tailFrom, tailFrom]
  change (let tailed := (Monitor.tail x.server.steady x.settings
    ({ x with now := began } : Exporter σ).monitor target).2
    ({ tailed with now := max x.now tailed.now } : Monitor σ)) = _
  rw [htail]
  rfl

theorem foldl_tailFrom_monitor (began : Instant) (targets : List String) (x : Exporter σ) :
    targets.foldl (Monitor.tailFrom x.server.steady x.settings began) x.monitor =
      (targets.foldl (tailFrom began) x).monitor := by
  induction targets generalizing x with
  | nil => rfl
  | cons target targets ih =>
    obtain ⟨hsettings, hserver⟩ := settings_tailFrom began x target
    rw [List.foldl_cons, List.foldl_cons, ← ih, hsettings, hserver, tailFrom_monitor]

/-- On databases that always answer alike, the operations are those of the exporter. -/
theorem perform_monitor (x : Exporter σ) (operation : Operation) :
    x.monitor.perform x.server.steady x.settings operation = (x.perform operation).monitor := by
  cases operation with
  | check target => exact congrArg Prod.snd (check_monitor x target)
  | acquire target => rfl
  | tick => rfl
  | tail target => exact congrArg Prod.snd (tail_monitor x target)
  | tailAll => exact foldl_tailFrom_monitor x.now x.monitor.names x

end Exporter

end Telemetry
