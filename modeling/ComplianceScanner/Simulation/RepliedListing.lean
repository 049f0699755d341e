import ComplianceScanner.Simulation.ScriptedCluster

namespace ComplianceScanner

/-- The answer to one listing call: a page, or the code of a failure. -/
inductive ListReply where
  | page (page : ObjectPage)
  | failure (code : Nat)

/-- A cluster that serves nothing and has a reply for each listing call; after the last one every
page is empty. -/
def RepliedListing.asCluster : Cluster (List ListReply) where
  discover replies := (.value [], replies)
  namespaces replies := (.value [], replies)
  list _ _ _ _
    | [] => (.value ⟨[], none⟩, [])
    | .page page :: rest => (.value page, rest)
    | .failure code :: rest => (.failed (ScriptedCluster.injectedFailure code), rest)

end ComplianceScanner
