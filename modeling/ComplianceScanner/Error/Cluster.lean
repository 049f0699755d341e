import ComplianceScanner.Text.Quoted

namespace ComplianceScanner

/-- What the API server says about a refused request. -/
structure ApiFailure where
  status : String
  message : String
  reason : String
  code : Nat
deriving DecidableEq, Repr

/-- Why a call to the cluster failed: refused by the server, answered with a body of another form
than expected, faced with a group of no versions, failed on the way, or never sent because it makes
no valid request. -/
inductive ClusterError where
  | api (failure : ApiFailure)
  | malformed
  | discovery
  | service
  | invalidRequest
deriving DecidableEq, Repr

def ApiFailure.summary (failure : ApiFailure) : String :=
  failure.message ++ ": " ++ failure.reason

def ApiFailure.detail (failure : ApiFailure) : String :=
  "ErrorResponse \x7b status: " ++ Text.quoted failure.status ++
    ", message: " ++ Text.quoted failure.message ++
    ", reason: " ++ Text.quoted failure.reason ++
    ", code: " ++ toString failure.code ++ " \x7d"

/-- Only a refusal has a text of its own. -/
def ClusterError.message? : ClusterError → Option String
  | .api failure => some ("ApiError: " ++ failure.summary ++ " (" ++ failure.detail ++ ")")
  | _ => none

end ComplianceScanner
