import ComplianceScanner.Cluster.Basic
import ComplianceScanner.Engine.Basic

namespace ComplianceScanner.Discovery

/-- A name such as `deployments/scale` stands for a part of another type. -/
def isTopLevel (resource : ResourceType) : Bool := !resource.plural.toList.contains '/'

def firstOfKind : List ResourceType → List ResourceType
  | [] => []
  | resource :: rest => resource :: (firstOfKind rest).filter (·.key ≠ resource.key)

/-- The types to scan among those that are served: one for each supported kind, sorted. -/
def select (supports : String → String → Bool) (served : List ResourceType) :
    List ResourceType :=
  ResourceType.sort (firstOfKind
    (served.filter fun resource => isTopLevel resource && supports resource.group resource.kind))

def run {World : Type} (cluster : Cluster World) (engine : Engine World) (world : World) :
    Except Stop (List ResourceType) × World :=
  match cluster.discover world with
  | (.value served, world) => (.ok (select (engine.supports world) served), world)
  | (.failed cause, world) => (.error (.failed (.discovery cause)), world)
  | (.cutOff, world) => (.error .cutOff, world)

end ComplianceScanner.Discovery
