import ComplianceScanner.Error.Basic
import ComplianceScanner.Metrics.Exposition
import ComplianceScanner.Probe.Route
import ComplianceScanner.Release
import ComplianceScanner.Schedule.State

/-!
The endpoint for probes and metrics. It answers whether the process lives and whether a cycle has
been completed, and shows the metrics at a path of choice.
-/

namespace ComplianceScanner

inductive Endpoint where
  | health
  | readiness
  | metrics
deriving DecidableEq, Repr

structure ProbeServer where
  metricsRoute : Route

/-- Why there is no server for a metrics path. A path that clashes with another one, or cannot be
read as a route, is no fault that can be reported: setting up the routes breaks off. -/
inductive RouteFault where
  | config (error : ConfigError)
  | brokenOff
deriving DecidableEq

inductive Body where
  | empty
  | json (content : Json)
  | text (content : String)

structure Response where
  status : Nat
  contentType : Option String := none
  allow : Option String := none
  body : Body := .empty

namespace ProbeServer

def healthPath : String := "/healthz"

def readinessPath : String := "/readyz"

def ofMetricsPath (path : String) : Except RouteFault ProbeServer :=
  if path.toList.head? ≠ some '/' then .error (.config (.relativeMetricsPath path))
  else if path = healthPath ∨ path = readinessPath then .error .brokenOff
  else
    match Route.ofText? path.toList with
    | some metricsRoute => .ok { metricsRoute }
    | none => .error .brokenOff

/-- Paths are compared as they stand; what follows a question mark is not part of them. -/
def endpoint? (server : ProbeServer) (target : String) : Option Endpoint :=
  let path := target.toList.takeWhile fun c => c ≠ '?' && c ≠ '#'
  if path = healthPath.toList then some .health
  else if path = readinessPath.toList then some .readiness
  else if server.metricsRoute.covers path then some .metrics
  else none

def jsonType : String := "application/json"

def metricsType : String := "application/openmetrics-text; version=1.0.0; charset=utf-8"

def health : Response :=
  { status := 200
    contentType := some jsonType
    body := .json (Json.ofMembers [("status", .str "ok"), ("version", .str Release.version)]) }

def readiness (state : SchedulerState) : Response :=
  { status := if state.isReady then 200 else 503
    contentType := some jsonType
    body := .json (Json.ofMembers
      [("ready", .bool state.isReady), ("completed_cycles", .int state.completedCycles),
       ("scheduler", state.toJson)]) }

def exposition (gauge : CheckGauge) (metrics : Metrics) : Response :=
  { status := 200
    contentType := some metricsType
    body := .text (Exposition.text gauge metrics) }

/-- Only reading is allowed; a request for the head alone leaves out the body. -/
def respond (server : ProbeServer) (state : SchedulerState) (gauge : CheckGauge)
    (metrics : Metrics) (method target : String) : Response :=
  match server.endpoint? target with
  | none => { status := 404 }
  | some endpoint =>
    let response := match endpoint with
      | .health => health
      | .readiness => readiness state
      | .metrics => exposition gauge metrics
    if method = "GET" then response
    else if method = "HEAD" then { response with body := .empty }
    else { status := 405, allow := some "GET,HEAD" }

end ProbeServer

end ComplianceScanner
