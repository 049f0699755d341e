import ComplianceScanner.Json.Basic
import ComplianceScanner.Resource.Identity

namespace ComplianceScanner

structure OwnerReference where
  apiVersion : String
  kind : String
deriving DecidableEq, Repr

/-- A listed object: the metadata that matters here, and everything else as `data`. -/
structure Object where
  name : Option String := none
  namespaceName : Option String := none
  uid : Option String := none
  resourceVersion : Option String := none
  owners : List OwnerReference := []
  data : Json := .null

/-- A listed object with the type it was listed as and the uid of its namespace. Items of a list
need not carry their type, so the type always comes from the listing. -/
structure ObjectView where
  resource : ResourceType
  object : Object
  namespaceUid : String

/-- The labels that name the metric series of one object. -/
structure ObjectLabels where
  namespaceUid : String
  namespaceName : String
  uid : String
  name : String
  kind : String
deriving DecidableEq, Repr

namespace ObjectView

def group (view : ObjectView) : String := view.resource.group

def kind (view : ObjectView) : String := view.resource.kind

def namespaceName (view : ObjectView) : String := view.object.namespaceName.getD ""

/-- An empty name is no name. -/
def name? (view : ObjectView) : Option String := view.object.name.filter (· ≠ "")

def uid (view : ObjectView) : String := view.object.uid.getD ""

def resourceVersion (view : ObjectView) : String := view.object.resourceVersion.getD ""

def data (view : ObjectView) : Json := view.object.data

/-- An object without a name cannot be tracked. -/
def identity? (view : ObjectView) : Option Identity :=
  view.name?.map (Identity.ofResource view.resource view.namespaceName)

def labels (view : ObjectView) : ObjectLabels :=
  ⟨view.namespaceUid, view.namespaceName, view.uid, view.name?.getD "", view.kind⟩

end ObjectView

namespace ObjectLabels

def fields (labels : ObjectLabels) : List String :=
  [labels.namespaceUid, labels.namespaceName, labels.uid, labels.name, labels.kind]

end ObjectLabels

end ComplianceScanner
