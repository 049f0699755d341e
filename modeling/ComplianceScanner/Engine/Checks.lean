import ComplianceScanner.Check.BuiltIn
import ComplianceScanner.Engine.Basic
import ComplianceScanner.Engine.Gauge
import ComplianceScanner.Selection.Basic

/-!
The engine of the built-in checks. Each enabled check in scope sets its series to 1 where the object
fails and removes it where the object passes. Objects managed by another workload are judged through
that workload, and objects scaled to zero are not judged at all.
-/

namespace ComplianceScanner

structure CheckEngine where
  enabled : List Check
  generation : UInt64 := 0
  gauge : CheckGauge := {}

/-- The group in a version as references write it; a bare version stands for the core group. -/
def groupOfApiVersion (apiVersion : String) : String :=
  let text := apiVersion.toList
  if text.contains '/' then String.ofList (text.takeWhile (· ≠ '/')) else ""

namespace ObjectView

/-- Managed by another object that carries a pod template. -/
def isManaged (view : ObjectView) : Bool :=
  view.object.owners.any fun owner =>
    isDeploymentLike (groupOfApiVersion owner.apiVersion) owner.kind

def isScaledToZero (view : ObjectView) : Bool :=
  match (view.data.path? ["spec", "replicas"]).bind Json.int64? with
  | some replicas => decide (replicas ≤ 0)
  | none => false

/-- Why an object cannot be judged at all. -/
def fault? (view : ObjectView) : Option ScanError :=
  match view.name? with
  | none =>
    some (.engine
      (view.resource.display ++ " in namespace " ++ Text.quoted view.namespaceName)
      "object has no name")
  | some name =>
    if view.data.isObject then none
    else
      some (.engine (view.resource.display ++ " " ++ view.namespaceName ++ "/" ++ name)
        "object body is not a JSON object")

/-- Whether one of the checks in scope fails for the object. -/
def failsAny (view : ObjectView) (checks : List Check) : Bool :=
  checks.any fun check => (check.evaluate view.kind view.data).isSome

end ObjectView

namespace CheckEngine

def ofSelection (selection : Selection) (gauge : CheckGauge) : Except SelectionError CheckEngine :=
  selection.resolve.map fun enabled => { enabled, gauge }

def isEnabled (engine : CheckEngine) (name : String) : Bool :=
  engine.enabled.any (·.name = name)

def supports (engine : CheckEngine) (group kind : String) : Bool :=
  engine.enabled.any (·.scope.covers group kind)

/-- The enabled checks that apply to objects of this group and kind. -/
def inScope (engine : CheckEngine) (group kind : String) : List Check :=
  engine.enabled.filter (·.scope.covers group kind)

/-- Swaps in the selected checks and says whether they are others than before. Then every series
goes and a new generation begins; a selection that cannot be resolved changes nothing. -/
def reload (engine : CheckEngine) (selection : Selection) :
    Except SelectionError Bool × CheckEngine :=
  match selection.resolve with
  | .error error => (.error error, engine)
  | .ok enabled =>
    if enabled = engine.enabled then (.ok false, engine)
    else (.ok true, { enabled, generation := engine.generation + 1, gauge := {} })

def deleteMetrics (engine : CheckEngine) (labels : ObjectLabels) : CheckEngine :=
  { engine with
    gauge := engine.enabled.foldl
      (fun gauge check => gauge.remove ⟨check.name, labels⟩) engine.gauge }

/-- Publishes what one check says about an object. -/
def publish (view : ObjectView) (gauge : CheckGauge) (check : Check) : CheckGauge :=
  if (check.evaluate view.kind view.data).isSome then gauge.set ⟨check.name, view.labels⟩ 1
  else gauge.remove ⟨check.name, view.labels⟩

def validate (engine : CheckEngine) (view : ObjectView) :
    Except ScanError Outcome × CheckEngine :=
  match view.fault? with
  | some error => (.error error, engine)
  | none =>
    if isDeploymentLike view.group view.kind && view.isManaged then (.ok .ignored, engine)
    else if view.isScaledToZero then (.ok .ignored, engine.deleteMetrics view.labels)
    else
      let checks := engine.inScope view.group view.kind
      (.ok (if view.failsAny checks then .needsImprovement else .valid),
        { engine with gauge := checks.foldl (publish view) engine.gauge })

def asEngine : Engine CheckEngine where
  supports := supports
  validate view engine := engine.validate view
  deleteMetrics labels engine := engine.deleteMetrics labels
  generation engine := engine.generation

end CheckEngine

end ComplianceScanner
