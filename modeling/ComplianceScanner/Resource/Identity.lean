import ComplianceScanner.Resource.Type

namespace ComplianceScanner

/-- What names one object over time; cluster-wide objects have an empty namespace. -/
structure Identity where
  group : String
  version : String
  kind : String
  namespaceName : String
  name : String
deriving DecidableEq, Repr

namespace Identity

def ofResource (resource : ResourceType) (namespaceName name : String) : Identity :=
  ⟨resource.group, resource.version, resource.kind, namespaceName, name⟩

def fields (identity : Identity) : List String :=
  [identity.group, identity.version, identity.kind, identity.namespaceName, identity.name]

instance : Ord Identity := ⟨compareOn fields⟩

instance : Std.TransOrd Identity := inferInstanceAs (Std.TransCmp (compareOn fields))

instance : Std.LawfulEqOrd Identity where
  eq_of_compare {a b} h := by
    have : fields a = fields b := Std.LawfulEqOrd.eq_of_compare h
    cases a; cases b; simp_all [fields]

def withVersion (identity : Identity) (version : String) : Identity :=
  { identity with version }

def display (identity : Identity) : String :=
  let type := apiVersion identity.group identity.version ++ "/" ++ identity.kind
  if identity.namespaceName = "" then type ++ " " ++ identity.name
  else type ++ " " ++ identity.namespaceName ++ "/" ++ identity.name

end Identity

end ComplianceScanner
