import ComplianceScanner.Cluster.Basic
import ComplianceScanner.Pattern.Matching
import ComplianceScanner.Pattern.Reader

/-!
The namespaces that are scanned. They are listed once and kept until a reset; those with a name that
the ignore pattern matches are left out.
-/

namespace ComplianceScanner

structure NamespaceResolver where
  ignore : Option Pattern.Expr
  snapshot : Option (List Namespace) := none

namespace NamespaceResolver

/-- An empty pattern ignores nothing. -/
def ofPattern (pattern : Option String) : Except ScanError NamespaceResolver :=
  match pattern.filter (· ≠ "") with
  | none => .ok { ignore := none }
  | some text =>
    match Pattern.compile? text with
    | some expr => .ok { ignore := some expr }
    | none => .error .pattern

def isIgnored (resolver : NamespaceResolver) (name : String) : Bool :=
  resolver.ignore.any (·.isMatch name)

def reset (resolver : NamespaceResolver) : NamespaceResolver :=
  { resolver with snapshot := none }

/-- The namespaces to scan, listed if they are not known. -/
def resolve {World : Type} (cluster : Cluster World) (resolver : NamespaceResolver)
    (world : World) : Except Stop (List Namespace) × NamespaceResolver × World :=
  match resolver.snapshot with
  | some kept => (.ok kept, resolver, world)
  | none =>
    match cluster.namespaces world with
    | (.value listed, world) =>
      let kept := listed.filter fun ns => !resolver.isIgnored ns.name
      (.ok kept, { resolver with snapshot := some kept }, world)
    | (.failed cause, world) => (.error (.failed (.namespaceList cause)), resolver, world)
    | (.cutOff, world) => (.error .cutOff, resolver, world)

/-- The uid of a namespace that is known and not ignored. -/
def uid? (resolver : NamespaceResolver) (name : String) : Option String :=
  (resolver.snapshot.bind (·.find? (·.name = name))).map (·.uid)

end NamespaceResolver

end ComplianceScanner
