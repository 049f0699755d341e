import ComplianceScanner.Cluster.Basic
import ComplianceScanner.Kubernetes.Document
import ComplianceScanner.Kubernetes.Http
import ComplianceScanner.Kubernetes.Version

/-!
A cluster behind its API server. Discovery asks for the types of every version of every group and
then takes the preferred version of each; a call stops at the first request that fails.
-/

namespace ComplianceScanner.Kubernetes

variable {World : Type}

/-- Sends a request and reads the document in its reply. -/
def fetch {α : Type} (send : Transport World) (request : Request) (read : Json → Option α)
    (world : World) : Except ClusterError α × World :=
  if !request.isValid then (.error .invalidRequest, world)
  else
    let (reply, world) := send request world
    match reply.document? with
    | .error error => (.error error, world)
    | .ok json =>
      match read json with
      | some a => (.ok a, world)
      | none => (.error .malformed, world)

/-- The types of one version. -/
structure VersionTypes where
  version : String
  list : TypeList

/-- All versions of one group; without a preferred one the first by rank is taken. -/
structure GroupTypes where
  name : String
  preferred : Option String
  versions : List VersionTypes

def fetchVersions (send : Transport World) :
    List GroupVersion → World → Except ClusterError (List VersionTypes) × World
  | [], world => (.ok [], world)
  | v :: rest, world =>
    match fetch send { path := v.path } TypeList.ofJson? world with
    | (.error error, world) => (.error error, world)
    | (.ok list, world) =>
      match fetchVersions send rest world with
      | (.error error, world) => (.error error, world)
      | (.ok lists, world) => (.ok (⟨v.version, list⟩ :: lists), world)

/-- A group must have a version. -/
def fetchGroup (send : Transport World) (name : String) (preferred : Option String)
    (versions : List GroupVersion) (world : World) : Except ClusterError GroupTypes × World :=
  if versions.isEmpty then (.error .discovery, world)
  else
    match fetchVersions send versions world with
    | (.error error, world) => (.error error, world)
    | (.ok versions, world) =>
      (.ok
        { name, preferred
          versions := versions.mergeSort fun a b =>
            (VersionName.ofText a.version).precedes (VersionName.ofText b.version) },
        world)

def fetchGroups (send : Transport World) :
    List Group → World → Except ClusterError (List GroupTypes) × World
  | [], world => (.ok [], world)
  | group :: rest, world =>
    let versions := group.versions.map fun v => ⟨"/apis/" ++ v.path, v.version⟩
    match fetchGroup send group.name group.preferred versions world with
    | (.error error, world) => (.error error, world)
    | (.ok types, world) =>
      match fetchGroups send rest world with
      | (.error error, world) => (.error error, world)
      | (.ok groups, world) => (.ok (types :: groups), world)

/-- The core group prefers its first version. -/
def fetchCore (send : Transport World) (world : World) :
    Except ClusterError GroupTypes × World :=
  match fetch send { path := "/api" } coreVersions? world with
  | (.error error, world) => (.error error, world)
  | (.ok versions, world) =>
    fetchGroup send "" (some "v1") (versions.map fun v => ⟨"/api/" ++ v, v⟩) world

/-- Of groups of one name the last counts. -/
def lastOfName : List GroupTypes → List GroupTypes
  | [] => []
  | group :: rest =>
    if rest.any (·.name = group.name) then lastOfName rest else group :: lastOfName rest

/-- The types of the preferred version, none if it is not served. -/
def GroupTypes.recommended (group : GroupTypes) : Option TypeList :=
  let preferred := group.preferred.orElse fun _ => group.versions.head?.map (·.version)
  (group.versions.find? fun v => some v.version = preferred).map (·.list)

/-- Group and version in a path such as `apps/v1`; the core group is left out of it. -/
def splitGroupVersion (text : String) : String × String :=
  let chars := text.toList
  match chars.dropWhile (· ≠ '/') with
  | [] => ("", text)
  | _ :: version => (String.ofList (chars.takeWhile (· ≠ '/')), String.ofList version)

/-- The listable types of a list. A name with a slash is a part of another type; whether a type
lives in namespaces, and what can be done with it, says the first entry of its name. -/
def TypeList.listable (list : TypeList) : List ResourceType :=
  let (group, version) := splitGroupVersion list.groupVersion
  list.types.filterMap fun type =>
    let first := (list.types.find? (·.name = type.name)).getD type
    if type.name.toList.contains '/' || !first.verbs.contains "list" then none
    else
      some {
        group := type.group.getD group
        version := type.version.getD version
        kind := type.kind
        plural := type.name
        namespaced := first.namespaced }

def discover (send : Transport World) (world : World) :
    Except ClusterError (List ResourceType) × World :=
  match fetch send { path := "/apis" } groups? world with
  | (.error error, world) => (.error error, world)
  | (.ok groups, world) =>
    match fetchGroups send groups world with
    | (.error error, world) => (.error error, world)
    | (.ok groups, world) =>
      match fetchCore send world with
      | (.error error, world) => (.error error, world)
      | (.ok core, world) =>
        (.ok ((lastOfName (groups ++ [core])).flatMap fun group =>
          (group.recommended.map TypeList.listable).getD []), world)

def listNamespaces (send : Transport World) (world : World) :
    Except ClusterError (List Namespace) × World :=
  match fetch send { path := "/api/v1/namespaces" } (ItemList.ofJson? namespace?) world with
  | (.error error, world) => (.error error, world)
  | (.ok list, world) => (.ok (list.items.filterMap id), world)

def listPath (resource : ResourceType) (namespaceName : Option String) : String :=
  (if resource.group = "" then "/api/" else "/apis/") ++ resource.apiVersion ++ "/" ++
    (namespaceName.map fun name => "namespaces/" ++ name ++ "/").getD "" ++ resource.plural

def listPage (send : Transport World) (resource : ResourceType) (namespaceName : Option String)
    (limit : Nat) (token : Option String) (world : World) :
    Except ClusterError ObjectPage × World :=
  let request : Request :=
    { path := listPath resource namespaceName
      query := ("limit", toString limit) :: (token.map fun token => ("continue", token)).toList }
  match fetch send request (ItemList.ofJson? object?) world with
  | (.error error, world) => (.error error, world)
  | (.ok list, world) => (.ok ⟨list.items, list.next⟩, world)

def answerOf {α : Type} : Except ClusterError α × World → Answer α × World
  | (.ok a, world) => (.value a, world)
  | (.error cause, world) => (.failed cause, world)

def asCluster (send : Transport World) : Cluster World where
  discover world := answerOf (discover send world)
  namespaces world := answerOf (listNamespaces send world)
  list resource namespaceName limit token world :=
    answerOf (listPage send resource namespaceName limit token world)

end ComplianceScanner.Kubernetes
