import ComplianceScanner.Proofs.Changes

/-!
# Journals

What a scanner does shows in its calls. Here a world keeps a journal of them: every request to the
cluster with its answer, and every call to the engine with what it came to. Statements about a scan
can then be read off by one who sees only cluster, engine and caches.
-/

namespace ComplianceScanner

variable {World : Type}

/-- A request to the cluster with its answer. -/
inductive Exchange where
  | discover (answer : Answer (List ResourceType))
  | namespaces (answer : Answer (List Namespace))
  | list (listing : Listing) (token : Option String) (answer : Answer ObjectPage)

namespace Exchange

def call : Exchange → Cluster.Call
  | discover _ => .discover
  | namespaces _ => .namespaces
  | list listing token _ => .list listing.resource listing.namespaceName listing.limit token

/-- The error of a scan that fails at this request. -/
def error? : Exchange → Option ScanError
  | discover (.failed cause) => some (.discovery cause)
  | namespaces (.failed cause) => some (.namespaceList cause)
  | list listing _ (.failed cause) =>
    some (.list listing.resource.display listing.namespaceName cause)
  | _ => none

/-- The objects shown, each with the type it is listed as. -/
def items : Exchange → List (ResourceType × Object)
  | list listing _ (.value page) => page.items.map fun object => (listing.resource, object)
  | _ => []

end Exchange

def ResourceType.subject? (resource : ResourceType) (object : Object) : Option Subject :=
  (object.name.filter (· ≠ "")).map fun name =>
    ⟨resource.group, resource.kind, object.namespaceName.getD "", name⟩

/-- Whether a listed object has a name. -/
def Exchange.isNamed (item : ResourceType × Object) : Bool := (item.1.subject? item.2).isSome

/-- The subjects of all named objects that were listed. -/
def listedSubjects (exchanges : List Exchange) : List Subject :=
  (exchanges.flatMap Exchange.items).filterMap fun (resource, object) => resource.subject? object

structure Journaled (World : Type) where
  world : World
  exchanges : List Exchange := []
  calls : List Engine.Call := []

namespace Cluster

/-- A call with the answer that the cluster has for it. -/
def exchange (cluster : Cluster World) (call : Call) (world : World) : Exchange :=
  match call with
  | .discover => .discover (cluster.discover world).1
  | .namespaces => .namespaces (cluster.namespaces world).1
  | .list resource namespaceName limit token =>
    .list ⟨resource, namespaceName, limit⟩ token
      (cluster.list resource namespaceName limit token world).1

def journaled (cluster : Cluster World) : Cluster (Journaled World) where
  discover j :=
    let (answer, world) := cluster.discover j.world
    (answer, { j with world, exchanges := j.exchanges ++ [.discover answer] })
  namespaces j :=
    let (answer, world) := cluster.namespaces j.world
    (answer, { j with world, exchanges := j.exchanges ++ [.namespaces answer] })
  list resource namespaceName limit token j :=
    let (answer, world) := cluster.list resource namespaceName limit token j.world
    (answer,
      { j with
        world
        exchanges := j.exchanges ++ [.list ⟨resource, namespaceName, limit⟩ token answer] })

theorem discover_journaled (cluster : Cluster World) (j : Journaled World) :
    cluster.journaled.discover j =
      ((cluster.discover j.world).1,
        { j with
          world := (cluster.discover j.world).2
          exchanges := j.exchanges ++ [.discover (cluster.discover j.world).1] }) := rfl

theorem namespaces_journaled (cluster : Cluster World) (j : Journaled World) :
    cluster.journaled.namespaces j =
      ((cluster.namespaces j.world).1,
        { j with
          world := (cluster.namespaces j.world).2
          exchanges := j.exchanges ++ [.namespaces (cluster.namespaces j.world).1] }) := rfl

theorem list_journaled (cluster : Cluster World) (listing : Listing) (token : Option String)
    (j : Journaled World) :
    cluster.journaled.list listing.resource listing.namespaceName listing.limit token j =
      let (answer, world) :=
        cluster.list listing.resource listing.namespaceName listing.limit token j.world
      (answer,
        { j with world, exchanges := j.exchanges ++ [.list listing token answer] }) := rfl

theorem after_journaled (cluster : Cluster World) (call : Call) (j : Journaled World) :
    cluster.journaled.after call j =
      { j with
        world := cluster.after call j.world
        exchanges := j.exchanges ++ [cluster.exchange call j.world] } := by
  cases call <;> rfl

end Cluster

namespace Engine

def journaled (engine : Engine World) : Engine (Journaled World) :=
  engine.logged.within (fun j => (j.world, j.calls)) fun (world, calls) j => { j with world, calls }

variable (engine : Engine World)

theorem validate_journaled (view : ObjectView) (j : Journaled World) :
    engine.journaled.validate view j =
      ((engine.validate view j.world).1,
        { j with
          world := (engine.validate view j.world).2
          calls := j.calls ++ [.validated view (engine.validate view j.world).1] }) := rfl

theorem deleteMetrics_journaled (labels : ObjectLabels) (j : Journaled World) :
    engine.journaled.deleteMetrics labels j =
      { j with
        world := engine.deleteMetrics labels j.world
        calls := j.calls ++ [.deleted labels] } := rfl

theorem deleteAll_journaled (labels : List ObjectLabels) (j : Journaled World) :
    engine.journaled.deleteAll labels j =
      { j with
        world := engine.deleteAll labels j.world
        calls := j.calls ++ labels.map .deleted } := by
  induction labels generalizing j with
  | nil => simp [deleteAll]
  | cons first labels ih =>
      have hrest := ih (engine.journaled.deleteMetrics first j)
      rw [deleteMetrics_journaled] at hrest
      change engine.journaled.deleteAll labels (engine.journaled.deleteMetrics first j) = _
      rw [deleteMetrics_journaled, hrest]
      simp [deleteAll]

namespace Call

def deletedLabels? : Call → Option ObjectLabels
  | deleted labels => some labels
  | validated _ _ => none

def validatedView? : Call → Option ObjectView
  | validated view (.ok _) => some view
  | _ => none

def failedView? : Call → Option ObjectView
  | validated view (.error _) => some view
  | _ => none

/-- The judgement of a subject, if this call is one. -/
def judgement? (subject : Subject) : Call → Option (ObjectView × Except ScanError Outcome)
  | validated view result => if view.subject? = some subject then some (view, result) else none
  | deleted _ => none

end Call

/-- The labels whose series were removed. -/
def deletions (calls : List Call) : List ObjectLabels := calls.filterMap Call.deletedLabels?

/-- The objects that the engine judged. -/
def successes (calls : List Call) : List ObjectView := calls.filterMap Call.validatedView?

/-- The objects that the engine failed at. -/
def failures (calls : List Call) : List ObjectView := calls.filterMap Call.failedView?

/-- The last object of a subject that the engine received, and what it made of it. -/
def lastJudgement? (calls : List Call) (subject : Subject) :
    Option (ObjectView × Except ScanError Outcome) :=
  (calls.filterMap (Call.judgement? subject)).getLast?

@[simp]
theorem deletions_append (calls later : List Call) :
    deletions (calls ++ later) = deletions calls ++ deletions later :=
  List.filterMap_append

@[simp]
theorem successes_append (calls later : List Call) :
    successes (calls ++ later) = successes calls ++ successes later :=
  List.filterMap_append

@[simp]
theorem failures_append (calls later : List Call) :
    failures (calls ++ later) = failures calls ++ failures later :=
  List.filterMap_append

@[simp]
theorem deletions_map_deleted (labels : List ObjectLabels) :
    deletions (labels.map .deleted) = labels := by
  induction labels with
  | nil => rfl
  | cons first labels ih => exact congrArg (first :: ·) ih

@[simp]
theorem successes_map_deleted (labels : List ObjectLabels) :
    successes (labels.map .deleted) = [] := by
  simp [successes, Call.validatedView?]

@[simp]
theorem failures_map_deleted (labels : List ObjectLabels) :
    failures (labels.map .deleted) = [] := by
  simp [failures, Call.failedView?]

theorem lastJudgement?_append (calls later : List Call) (subject : Subject) :
    lastJudgement? (calls ++ later) subject =
      (lastJudgement? later subject).or (lastJudgement? calls subject) := by
  rw [lastJudgement?, List.filterMap_append, List.getLast?_append]
  rfl

theorem subject?_of_lastJudgement? {calls : List Call} {subject : Subject} {view : ObjectView}
    {result : Except ScanError Outcome} (hlast : lastJudgement? calls subject = some (view, result)) :
    view.subject? = some subject := by
  obtain ⟨call, -, hcall⟩ := List.mem_filterMap.mp (List.mem_of_getLast? hlast)
  cases call with
  | deleted labels => cases hcall
  | validated shown outcome =>
      rw [Call.judgement?] at hcall
      split at hcall
      · cases hcall
        assumption
      · cases hcall

theorem lastJudgement?_map_deleted (labels : List ObjectLabels) (subject : Subject) :
    lastJudgement? (labels.map .deleted) subject = none := by
  have hnone : (labels.map Call.deleted).filterMap (Call.judgement? subject) = [] := by
    simp [Call.judgement?]
  rw [lastJudgement?, hnone, List.getLast?_nil]

theorem lastJudgement?_validated (view : ObjectView) (result : Except ScanError Outcome)
    (subject : Subject) :
    lastJudgement? [.validated view result] subject =
      if view.subject? = some subject then some (view, result) else none := by
  by_cases hsubject : view.subject? = some subject <;>
    simp [lastJudgement?, Call.judgement?, hsubject]

end Engine

end ComplianceScanner
