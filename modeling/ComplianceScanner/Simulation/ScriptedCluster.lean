import ComplianceScanner.Cluster.Basic
import ComplianceScanner.Time.Duration

/-!
A cluster that answers from a script: it holds what it serves, lists by offset, and fails the calls
that it is told to fail.
-/

namespace ComplianceScanner

/-- Where objects are listed. -/
structure ListScope where
  type : String
  namespaceName : Option String
deriving DecidableEq, Repr

inductive CallKind where
  | discover
  | namespaces
  | list
deriving DecidableEq, Repr

structure ScriptedCluster where
  resources : List ResourceType := []
  namespaces : List Namespace := []
  objects : List (ListScope × List Object) := []
  /-- For each of the next calls of a kind, the code to fail it with, if it is to fail. -/
  plans : CallKind → List (Option Nat) := fun _ => []
  /-- The last page of a listing has an empty token, not an absent one. -/
  endsWithEmptyToken : Bool := false
  listDelay : Duration := .zero
  /-- The time that listings and waits have taken so far. -/
  elapsed : Duration := .zero
  /-- The call that is to be cut off, if any: how many of its kind come before it. -/
  cutOff : Option (CallKind × Nat) := none

namespace ScriptedCluster

def injectedFailure (code : Nat) : ClusterError :=
  .api ⟨"Failure", "injected failure", "InternalError", code⟩

def objectsIn (cluster : ScriptedCluster) (scope : ListScope) : List Object :=
  (cluster.objects.lookup scope).getD []

def setObjects (cluster : ScriptedCluster) (scope : ListScope) (objects : List Object) :
    ScriptedCluster :=
  { cluster with
    objects := (scope, objects) :: cluster.objects.filter fun (other, _) => other ≠ scope }

/-- Adds an object at the end of its scope, in place of those of its name. -/
def put (cluster : ScriptedCluster) (scope : ListScope) (object : Object) : ScriptedCluster :=
  cluster.setObjects scope
    ((cluster.objectsIn scope).filter (·.name ≠ object.name) ++ [object])

def delete (cluster : ScriptedCluster) (scope : ListScope) (name : String) : ScriptedCluster :=
  cluster.setObjects scope ((cluster.objectsIn scope).filter (·.name ≠ some name))

def plan (cluster : ScriptedCluster) (kind : CallKind) (codes : List (Option Nat)) :
    ScriptedCluster :=
  { cluster with plans := fun other => if other = kind then codes else cluster.plans other }

def wait (cluster : ScriptedCluster) (length : Duration) : ScriptedCluster :=
  { cluster with elapsed := ⟨cluster.elapsed.nanoseconds + length.nanoseconds⟩ }

/-- Answers one call with `value`, unless it is to be cut off or to fail. -/
def answer {α : Type} (cluster : ScriptedCluster) (kind : CallKind) (value : α) :
    Answer α × ScriptedCluster :=
  if cluster.cutOff = some (kind, 0) then (.cutOff, { cluster with cutOff := none })
  else
    let counted := { cluster with
      cutOff := cluster.cutOff.map fun (other, before) =>
        (other, if other = kind then before - 1 else before) }
    match counted.plans kind with
    | [] => (.value value, counted)
    | code :: rest =>
      let rest := counted.plan kind rest
      match code with
      | none => (.value value, rest)
      | some code => (.failed (injectedFailure code), rest)

/-- The objects from the offset in the token on. -/
def page (cluster : ScriptedCluster) (scope : ListScope) (limit : Nat) (token : Option String) :
    ObjectPage :=
  let objects := cluster.objectsIn scope
  let start := (token.bind String.toNat?).getD 0
  let rest := objects.drop start
  { items := rest.take limit
    next :=
      if limit < rest.length then some (toString (start + limit))
      else if cluster.endsWithEmptyToken then some "" else none }

def asCluster : Cluster ScriptedCluster where
  discover cluster := cluster.answer .discover cluster.resources
  namespaces cluster := cluster.answer .namespaces cluster.namespaces
  list resource namespaceName limit token cluster :=
    (cluster.wait cluster.listDelay).answer .list
      (cluster.page ⟨resource.display, namespaceName⟩ limit token)

end ScriptedCluster

end ComplianceScanner
