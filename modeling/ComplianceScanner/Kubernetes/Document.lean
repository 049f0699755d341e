import ComplianceScanner.Json.Basic
import ComplianceScanner.Resource.Object
import ComplianceScanner.Time.Timestamp

/-!
The documents of the API server. A member of a document may be left out or null, but a known one is
of its type; members that are not known are passed over. A document need not say what it is, but it
must not say that it is something else.
-/

namespace ComplianceScanner.Kubernetes

def member? {α : Type} (json : Json) (name : String) (default : α) (read : Json → Option α) :
    Option α :=
  match json.get? name with
  | none | some .null => some default
  | some value => read value

def textMember? (json : Json) (name : String) : Option String := member? json name "" Json.str?

def optionalText? (json : Json) (name : String) : Option (Option String) :=
  member? json name none fun value => value.str?.map some

def listMember? {α : Type} (json : Json) (name : String) (read : Json → Option α) :
    Option (List α) :=
  member? json name [] fun value => value.arr?.bind (·.mapM read)

/-- Whether the document says nothing else than that it is of this kind, in the first version. -/
def isOfKind (json : Json) (kind : String) : Bool :=
  let states (name value : String) : Bool :=
    match json.get? name with
    | none => true
    | some other => other.str? = some value
  json.isObject && states "apiVersion" "v1" && states "kind" kind

/-- One version of a group; `path` is where its types are listed. -/
structure GroupVersion where
  path : String
  version : String

def GroupVersion.ofJson? (json : Json) : Option GroupVersion := do
  if json.isObject then
    some ⟨← textMember? json "groupVersion", ← textMember? json "version"⟩
  else none

structure Group where
  name : String
  versions : List GroupVersion
  preferred : Option String

def Group.ofJson? (json : Json) : Option Group := do
  if isOfKind json "APIGroup" then
    some {
      name := ← textMember? json "name"
      versions := ← listMember? json "versions" GroupVersion.ofJson?
      preferred := ← member? json "preferredVersion" none fun version =>
        (GroupVersion.ofJson? version).map fun version => some version.version }
  else none

def groups? (json : Json) : Option (List Group) :=
  if isOfKind json "APIGroupList" then listMember? json "groups" Group.ofJson? else none

def coreVersions? (json : Json) : Option (List String) :=
  if isOfKind json "APIVersions" then listMember? json "versions" Json.str? else none

/-- A type as a version of a group lists it. -/
structure ServedType where
  name : String
  kind : String
  group : Option String
  version : Option String
  namespaced : Bool
  verbs : List String

def ServedType.ofJson? (json : Json) : Option ServedType := do
  let _ ← listMember? json "categories" Json.str?
  let _ ← listMember? json "shortNames" Json.str?
  let _ ← optionalText? json "singularName"
  let _ ← optionalText? json "storageVersionHash"
  if json.isObject then
    some {
      name := ← textMember? json "name"
      kind := ← textMember? json "kind"
      group := ← optionalText? json "group"
      version := ← optionalText? json "version"
      namespaced := ← member? json "namespaced" false Json.bool?
      verbs := ← listMember? json "verbs" Json.str? }
  else none

structure TypeList where
  groupVersion : String
  types : List ServedType

def TypeList.ofJson? (json : Json) : Option TypeList := do
  if isOfKind json "APIResourceList" then
    some ⟨← textMember? json "groupVersion", ← listMember? json "resources" ServedType.ofJson?⟩
  else none

def textMap? (json : Json) : Option Unit := do
  let members ← json.obj?
  if members.all fun (_, value) => value.str?.isSome then some () else none

def time? (json : Json) : Option Unit :=
  ((json.str?.bind Timestamp.ofText?).map fun _ => ())

def owner? (json : Json) : Option OwnerReference := do
  let _ ← member? json "controller" false Json.bool?
  let _ ← member? json "blockOwnerDeletion" false Json.bool?
  let _ ← textMember? json "name"
  let _ ← textMember? json "uid"
  if json.isObject then
    some ⟨← textMember? json "apiVersion", ← textMember? json "kind"⟩
  else none

def metadata? (json : Json) : Option Object := do
  let _ ← ["annotations", "labels"].mapM fun name => member? json name () textMap?
  let _ ← ["creationTimestamp", "deletionTimestamp"].mapM fun name => member? json name () time?
  let _ ← ["generation", "deletionGracePeriodSeconds"].mapM fun name =>
    member? json name 0 Json.int64?
  let _ ← ["generateName", "selfLink"].mapM (optionalText? json)
  let _ ← listMember? json "finalizers" Json.str?
  let _ ← listMember? json "managedFields" Json.obj?
  if json.isObject then
    some {
      name := ← optionalText? json "name"
      namespaceName := ← optionalText? json "namespace"
      uid := ← optionalText? json "uid"
      resourceVersion := ← optionalText? json "resourceVersion"
      owners := ← listMember? json "ownerReferences" owner? }
  else none

/-- A listed object: all but the metadata and what it says it is makes up its body. -/
def object? (json : Json) : Option Object := do
  let members ← json.obj?
  let metadata ← match members.lookup "metadata" with
    | none => some {}
    | some metadata => metadata? metadata
  some { metadata with
    data := ((json.eraseMember "metadata").eraseMember "apiVersion").eraseMember "kind" }

/-- A namespace without a name is none. -/
def namespace? (json : Json) : Option (Option Namespace) := do
  let metadata ← member? json "metadata" {} metadata?
  let _ ← member? json "spec" [] Json.obj?
  let _ ← member? json "status" [] Json.obj?
  if isOfKind json "Namespace" then
    some (metadata.name.map fun name => ⟨name, metadata.uid.getD ""⟩)
  else none

structure ItemList (α : Type) where
  items : List α
  next : Option String

/-- The items of a list must be there, but may be null; its metadata may be left out. -/
def ItemList.ofJson? {α : Type} (read : Json → Option α) (json : Json) : Option (ItemList α) := do
  let members ← json.obj?
  let next ← match members.lookup "metadata" with
    | none => some none
    | some metadata => do
      let _ ← member? metadata "remainingItemCount" 0 Json.int64?
      let _ ← ["resourceVersion", "selfLink"].mapM (optionalText? metadata)
      if metadata.isObject then optionalText? metadata "continue" else none
  let items ← match members.lookup "items" with
    | none => none
    | some .null => some []
    | some items => items.arr?.bind (·.mapM read)
  some ⟨items, next⟩

end ComplianceScanner.Kubernetes
