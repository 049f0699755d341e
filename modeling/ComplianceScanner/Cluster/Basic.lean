import ComplianceScanner.Error.Basic
import ComplianceScanner.Resource.Object

/-!
What a scan asks of a cluster: the served resource types, the namespaces, and objects page by page.
A call can also be cut off before its answer comes, and then the scan it was part of stops there.
-/

namespace ComplianceScanner

/-- One page of a listing; on the last one `next` is absent or empty. -/
structure ObjectPage where
  items : List Object
  next : Option String

inductive Answer (α : Type) where
  | value (a : α)
  | failed (cause : ClusterError)
  | cutOff

structure Cluster (World : Type) where
  discover : World → Answer (List ResourceType) × World
  namespaces : World → Answer (List Namespace) × World
  /-- One page of objects of a type in a namespace, or in the whole cluster: at most so many,
  starting where the token says. -/
  list : ResourceType → Option String → Nat → Option String → World → Answer ObjectPage × World

/-- Why a scan ends before it is done: a failure, a call that was cut off, or more pages or cycles
than it was allowed. -/
inductive Stop where
  | failed (error : ScanError)
  | cutOff
  | outOfSteps
deriving DecidableEq

namespace Cluster

/-- A cluster that no call reaches. -/
def unreachable {World : Type} : Cluster World where
  discover world := (.failed .service, world)
  namespaces world := (.failed .service, world)
  list _ _ _ _ world := (.failed .service, world)

def within {World Part : Type} (cluster : Cluster Part) (part : World → Part)
    (replace : Part → World → World) : Cluster World where
  discover world :=
    let (answer, inner) := cluster.discover (part world)
    (answer, replace inner world)
  namespaces world :=
    let (answer, inner) := cluster.namespaces (part world)
    (answer, replace inner world)
  list resource namespaceName limit token world :=
    let (answer, inner) := cluster.list resource namespaceName limit token (part world)
    (answer, replace inner world)

inductive Call where
  | discover
  | namespaces
  | list (resource : ResourceType) (namespaceName : Option String) (limit : Nat)
      (token : Option String)
deriving DecidableEq, Repr

/-- A call on one line; `-` stands for what is absent. -/
def Call.text : Call → String
  | discover => "discover"
  | namespaces => "namespaces"
  | list resource namespaceName limit token =>
    "list " ++ resource.display ++ " ns=" ++ namespaceName.getD "-" ++
      " limit=" ++ toString limit ++ " token=" ++ token.getD "-"

/-- The cluster with a record of the calls, oldest first. -/
def logged {World : Type} (cluster : Cluster World) : Cluster (World × List Call) where
  discover world :=
    let (answer, inner) := cluster.discover world.1
    (answer, inner, world.2 ++ [.discover])
  namespaces world :=
    let (answer, inner) := cluster.namespaces world.1
    (answer, inner, world.2 ++ [.namespaces])
  list resource namespaceName limit token world :=
    let (answer, inner) := cluster.list resource namespaceName limit token world.1
    (answer, inner, world.2 ++ [.list resource namespaceName limit token])

end Cluster

end ComplianceScanner
