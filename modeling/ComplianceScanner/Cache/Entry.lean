import ComplianceScanner.Resource.Object

namespace ComplianceScanner

/-- What validating one object came to; `ignored` objects are left alone on purpose. -/
inductive Outcome where
  | valid
  | needsImprovement
  | ignored
deriving DecidableEq, Repr

def Outcome.name : Outcome → String
  | valid => "Valid"
  | needsImprovement => "NeedsImprovement"
  | ignored => "Ignored"

/-- What is remembered of a validated object. The two uids are those seen at that time, so that the
labels of its series can be named when object and namespace are gone. -/
structure CacheEntry where
  resourceVersion : String
  uid : String
  namespaceUid : String
  outcome : Outcome
deriving DecidableEq, Repr

def CacheEntry.ofView (view : ObjectView) (outcome : Outcome) : CacheEntry :=
  ⟨view.resourceVersion, view.uid, view.namespaceUid, outcome⟩

/-- The labels of an object that is known by its cache entry only. -/
def ObjectLabels.ofEntry (identity : Identity) (entry : CacheEntry) : ObjectLabels :=
  ⟨entry.namespaceUid, identity.namespaceName, entry.uid, identity.name, identity.kind⟩

end ComplianceScanner
