import Telemetry.Exporter.Basic
import Telemetry.Exposition
import Telemetry.Format.Json

/-!
# Pages

The pages that the exporter serves: a landing page, the state of its targets, and the metrics. A
page can be read, with its content or without; any other method is refused.
-/

namespace Telemetry

/-- The answer to a request. -/
structure Response where
  status : Nat
  contentType : Option String := none
  /-- The methods that a page takes, where another one was tried. -/
  allow : Option String := none
  body : String := ""
  deriving DecidableEq, Repr

/-- The pages. -/
inductive Page where
  | landing
  | health
  | metrics
  deriving DecidableEq, Repr

/-- The version of the exporter. -/
def version : String := "0.1.0"

namespace Exporter

variable {σ : Type}

/-- The page at a path. -/
def pageAt? (metricsPath path : String) : Option Page :=
  if path = "/" then some .landing
  else if path = "/health" then some .health
  else if path = metricsPath then some .metrics
  else none

/-- The landing page. -/
def landingBody (metricsPath : String) : String :=
  "<html><head><title>dbmon</title></head><body><h1>dbmon</h1><p><a href=\"" ++ metricsPath ++
    "\">Metrics</a></p></body></html>"

/-- The state of a target. -/
def healthOf (now : Instant) (c : Connection σ) : Json :=
  .object [("credentials_valid", .bool (c.health.isValidAt now)),
    ("name", .string c.target.name), ("up", .bool c.health.up)]

/-- The state of the exporter. -/
def healthBody (x : Exporter σ) : String :=
  (Json.object [("definitions", .ofNat x.scraper.plan.set.definitions.length),
    ("rejected_definitions", .ofNat x.scraper.plan.set.problems.length),
    ("status", .string "ok"), ("targets", .array (x.connections.map (healthOf x.now))),
    ("version", .string version)]).render

/-- Serves a page. Without a schedule of its own, the exporter runs a tick for the metrics. -/
def serve (x : Exporter σ) : Page → Response × Exporter σ
  | .landing =>
    (⟨200, some "text/html; charset=utf-8", none, landingBody x.settings.metricsPath⟩, x)
  | .health => (⟨200, some "application/json", none, x.healthBody⟩, x)
  | .metrics =>
    let x := if x.settings.onDemand then x.tick else x
    (⟨200, some "text/plain; version=0.0.4; charset=utf-8", none, x.exposition⟩, x)

/-- The path of a request, without its query and its fragment. -/
def pathOf (target : String) : String :=
  String.ofList (target.toList.takeWhile fun c => c ≠ '?' && c ≠ '#')

/-- Answers a request. -/
def respond (x : Exporter σ) (method target : String) : Response × Exporter σ :=
  match pageAt? x.settings.metricsPath (pathOf target) with
  | none => (⟨404, none, none, ""⟩, x)
  | some page =>
    if method = "GET" then x.serve page
    else if method = "HEAD" then
      let (response, x) := x.serve page
      ({ response with body := "" }, x)
    else (⟨405, none, some "GET,HEAD", ""⟩, x)

end Exporter

end Telemetry
