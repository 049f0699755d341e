import Std.Data.ExtTreeMap

namespace ComplianceScanner

/-- A resource type that the cluster serves; `plural` is its part of a request path. -/
structure ResourceType where
  group : String
  version : String
  kind : String
  plural : String
  namespaced : Bool
deriving DecidableEq, Repr

/-- Group and kind, which stay when the preferred version of a kind changes. -/
structure ResourceKey where
  group : String
  kind : String
deriving DecidableEq, Repr

structure Namespace where
  name : String
  uid : String
deriving DecidableEq, Repr

namespace ResourceKey

def fields (key : ResourceKey) : List String := [key.group, key.kind]

instance : Ord ResourceKey := ⟨compareOn fields⟩

instance : Std.TransOrd ResourceKey := inferInstanceAs (Std.TransCmp (compareOn fields))

instance : Std.LawfulEqOrd ResourceKey where
  eq_of_compare {a b} h := by
    have : fields a = fields b := Std.LawfulEqOrd.eq_of_compare h
    cases a; cases b; simp_all [fields]

/-- `Deployment.apps`, or the bare kind in the core group. -/
def display (key : ResourceKey) : String :=
  if key.group = "" then key.kind else key.kind ++ "." ++ key.group

end ResourceKey

/-- A version within its group; the core group has no name. -/
def apiVersion (group version : String) : String :=
  if group = "" then version else group ++ "/" ++ version

namespace ResourceType

def key (resource : ResourceType) : ResourceKey := ⟨resource.group, resource.kind⟩

def apiVersion (resource : ResourceType) : String :=
  ComplianceScanner.apiVersion resource.group resource.version

def display (resource : ResourceType) : String :=
  resource.apiVersion ++ "/" ++ resource.kind

def fields (resource : ResourceType) : List String :=
  [resource.group, resource.version, resource.kind, resource.plural]

instance : Ord ResourceType := ⟨compareLex (compareOn fields) (compareOn namespaced)⟩

instance : Std.TransOrd ResourceType :=
  inferInstanceAs (Std.TransCmp (compareLex (compareOn fields) (compareOn namespaced)))

/-- In order of group, version, kind, plural, and cluster-wide before namespaced. -/
def sort (resources : List ResourceType) : List ResourceType :=
  resources.mergeSort fun a b => (compare a b).isLE

end ResourceType

end ComplianceScanner
