import ComplianceScanner.Engine.Checks
import ComplianceScanner.Schedule.Run
import ComplianceScanner.Simulation.ScriptedCluster
import ComplianceScanner.Simulation.StandIn

/-!
A scenario: a scripted cluster and an engine that change between cycles, the calls made to both, and
a clock on which only listings and waits take time.
-/

namespace ComplianceScanner

inductive ScenarioEngine where
  | checks (engine : CheckEngine)
  | standIn (engine : StandIn)

namespace ScenarioEngine

def gauge : ScenarioEngine → CheckGauge
  | checks engine => engine.gauge
  | standIn _ => {}

def asEngine : Engine ScenarioEngine where
  supports
    | checks engine => CheckEngine.asEngine.supports engine
    | standIn engine => StandIn.asEngine.supports engine
  validate view
    | checks engine =>
      let (result, engine) := CheckEngine.asEngine.validate view engine
      (result, checks engine)
    | standIn engine =>
      let (result, engine) := StandIn.asEngine.validate view engine
      (result, standIn engine)
  deleteMetrics labels
    | checks engine => checks (CheckEngine.asEngine.deleteMetrics labels engine)
    | standIn engine => standIn (StandIn.asEngine.deleteMetrics labels engine)
  generation
    | checks engine => CheckEngine.asEngine.generation engine
    | standIn engine => StandIn.asEngine.generation engine

/-- Only the built-in checks can be reloaded. -/
def reload (selection : Selection) : ScenarioEngine → Except SelectionError Bool × ScenarioEngine
  | checks engine =>
    let (result, engine) := engine.reload selection
    (result, checks engine)
  | standIn engine => (.ok false, standIn engine)

def mapStandIn (change : StandIn → StandIn) : ScenarioEngine → ScenarioEngine
  | standIn engine => standIn (change engine)
  | other => other

end ScenarioEngine

/-- What can change between two cycles. -/
inductive Change where
  | resources (resources : List ResourceType)
  | namespaces (namespaces : List Namespace)
  | objects (scope : ListScope) (objects : List Object)
  | put (scope : ListScope) (object : Object)
  | delete (scope : ListScope) (name : String)
  | plan (kind : CallKind) (codes : List (Option Nat))
  | listDelay (delay : Duration)
  | emptyToken
  | engineFailures (names : List String)
  | newGeneration
  | reload (selection : Selection)

/-- When a run is told to stop; waits are counted from 1. -/
inductive StopPoint where
  | before
  | tickWait (n : Nat)
  | retryWait (n : Nat)
deriving DecidableEq

structure Scenario where
  cluster : ScriptedCluster := {}
  calls : List Cluster.Call := []
  engine : ScenarioEngine
  engineCalls : List Engine.Call := []
  stopAt : Option StopPoint := none
  tickWaits : Nat := 0
  retryWaits : Nat := 0
  /-- The changes at each of the next waits for a tick. -/
  between : List (List Change) := []

namespace Scenario

def asCluster : Cluster Scenario :=
  ScriptedCluster.asCluster.logged.within (fun s => (s.cluster, s.calls))
    fun (cluster, calls) s => { s with cluster, calls }

def asEngine : Engine Scenario :=
  ScenarioEngine.asEngine.logged.within (fun s => (s.engine, s.engineCalls))
    fun (engine, engineCalls) s => { s with engine, engineCalls }

def apply (s : Scenario) : Change → Scenario
  | .resources resources => { s with cluster := { s.cluster with resources } }
  | .namespaces namespaces => { s with cluster := { s.cluster with namespaces } }
  | .objects scope objects => { s with cluster := s.cluster.setObjects scope objects }
  | .put scope object => { s with cluster := s.cluster.put scope object }
  | .delete scope name => { s with cluster := s.cluster.delete scope name }
  | .plan kind codes => { s with cluster := s.cluster.plan kind codes }
  | .listDelay delay => { s with cluster := { s.cluster with listDelay := delay } }
  | .emptyToken => { s with cluster := { s.cluster with endsWithEmptyToken := true } }
  | .engineFailures names =>
    { s with engine := s.engine.mapStandIn fun engine => { engine with failing := names } }
  | .newGeneration =>
    { s with engine := s.engine.mapStandIn fun engine =>
      { engine with generation := engine.generation + 1 } }
  | .reload selection => { s with engine := (s.engine.reload selection).2 }

def applyAll (s : Scenario) (changes : List Change) : Scenario := changes.foldl apply s

def now (s : Scenario) : Duration := s.cluster.elapsed

def wait (s : Scenario) (length : Duration) : Scenario :=
  { s with cluster := s.cluster.wait length }

/-- A wait for a tick that is due already is none. -/
def awaitTick (tick : Duration) (s : Scenario) : Wake × Scenario :=
  if tick.nanoseconds ≤ s.now.nanoseconds then (.due, s)
  else
    let s := { s with tickWaits := s.tickWaits + 1, between := s.between.tail }.applyAll
      (s.between.head?.getD [])
    if s.stopAt = some (.tickWait s.tickWaits) then (.cancelled, s)
    else (.due, s.wait ⟨tick.nanoseconds - s.now.nanoseconds⟩)

/-- A wait for no time is none either. -/
def awaitRetry (delay : Duration) (s : Scenario) : Wake × Scenario :=
  if delay = .zero then (.due, s)
  else
    let s := { s with retryWaits := s.retryWaits + 1 }
    if s.stopAt = some (.retryWait s.retryWaits) then (.cancelled, s) else (.due, s.wait delay)

/-- No tick is moved, and the date is that of the fixed point that time is counted from. -/
def clock : Clock Scenario where
  now := now
  date s := ⟨s.now.seconds, s.now.subsecond⟩
  isCancelled s := s.stopAt = some .before
  drawOffset s := (0, s)
  awaitTick := awaitTick
  awaitRetry := awaitRetry

/-- The scenario at the start of a run, with nothing on record. -/
def forget (s : Scenario) : Scenario := { s with calls := [], engineCalls := [] }

/-- The scenario with what a run is to meet. -/
def prepare (s : Scenario) (stopAt : Option StopPoint) (cutOff : Option (CallKind × Nat))
    (between : List (List Change)) : Scenario :=
  { s with
    cluster := { s.cluster with cutOff }
    stopAt, between
    tickWaits := 0
    retryWaits := 0 }

end Scenario

end ComplianceScanner
