import ComplianceScanner.Engine.Basic

namespace ComplianceScanner

/-- An engine that finds fault with every object and publishes nothing. -/
structure StandIn where
  unsupportedKinds : List String
  /-- The names of the objects that it fails at. -/
  failing : List String := []
  generation : UInt64 := 0

namespace StandIn

def validate (engine : StandIn) (view : ObjectView) : Except ScanError Outcome :=
  let name := view.name?.getD ""
  if engine.failing.contains name then .error (.engine name "malformed object")
  else .ok .needsImprovement

def asEngine : Engine StandIn where
  supports engine _ kind := !engine.unsupportedKinds.contains kind
  validate view engine := (engine.validate view, engine)
  deleteMetrics _ engine := engine
  generation engine := engine.generation

end StandIn

end ComplianceScanner
