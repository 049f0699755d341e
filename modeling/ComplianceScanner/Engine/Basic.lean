import ComplianceScanner.Cache.Entry
import ComplianceScanner.Error.Basic

/-!
What a scan asks of the engine that judges objects. The engine lives in a world that it may share
with others, so each call takes the world and gives it back.
-/

namespace ComplianceScanner

structure Engine (World : Type) where
  /-- Whether any check applies to objects of this group and kind. -/
  supports : World → String → String → Bool
  /-- Judges one object and publishes its series. -/
  validate : ObjectView → World → Except ScanError Outcome × World
  /-- Removes every series published for the object. -/
  deleteMetrics : ObjectLabels → World → World
  /-- Moves on whenever the rules change; outcomes from before are stale then. -/
  generation : World → UInt64

namespace Engine

def deleteAll {World : Type} (engine : Engine World) (labels : List ObjectLabels)
    (world : World) : World :=
  labels.foldl (fun world labels => engine.deleteMetrics labels world) world

/-- The engine as a part of a larger world. -/
def within {World Part : Type} (engine : Engine Part) (part : World → Part)
    (replace : Part → World → World) : Engine World where
  supports world := engine.supports (part world)
  validate view world :=
    let (result, inner) := engine.validate view (part world)
    (result, replace inner world)
  deleteMetrics labels world := replace (engine.deleteMetrics labels (part world)) world
  generation world := engine.generation (part world)

/-- One call to an engine that may have changed something. -/
inductive Call where
  | validated (view : ObjectView) (result : Except ScanError Outcome)
  | deleted (labels : ObjectLabels)

/-- The engine with a record of its calls, oldest first. -/
def logged {World : Type} (engine : Engine World) : Engine (World × List Call) where
  supports world := engine.supports world.1
  validate view world :=
    let (result, inner) := engine.validate view world.1
    (result, inner, world.2 ++ [.validated view result])
  deleteMetrics labels world :=
    (engine.deleteMetrics labels world.1, world.2 ++ [.deleted labels])
  generation world := engine.generation world.1

end Engine

end ComplianceScanner
