import ComplianceScanner.Error.Cluster
import ComplianceScanner.Error.Config

namespace ComplianceScanner

inductive ScanError where
  | discovery (cause : ClusterError)
  | namespaceList (cause : ClusterError)
  | list (resource : String) (namespaceName : Option String) (cause : ClusterError)
  | engine (identity message : String)
  | retriesExhausted (attempts : Nat) (cause : ScanError)
  | config (error : ConfigError)
  | pattern
  | cluster (cause : ClusterError)
  | serialization
  | yaml
  | io (text : String)
deriving DecidableEq

namespace ScanError

def label : ScanError → String
  | discovery _ => "discovery"
  | namespaceList _ => "namespaces"
  | list _ _ _ => "list"
  | engine _ _ => "engine"
  | retriesExhausted _ _ => "exhausted"
  | config _ => "config"
  | pattern => "config"
  | cluster _ => "kube"
  | serialization => "serialization"
  | yaml => "serialization"
  | io _ => "io"

/-- Whether a cycle that failed with this error is tried again. -/
def isRetriable : ScanError → Bool
  | discovery _ | namespaceList _ | list _ _ _ | cluster _ => true
  | _ => false

/-- What the text of an error says before that of its cause. -/
def opening : ScanError → String
  | discovery _ => "Resource discovery failed: "
  | namespaceList _ => "Failed to list namespaces: "
  | list resource namespaceName _ =>
    "Failed to list " ++ resource ++ " in " ++ namespaceName.getD "cluster scope" ++ ": "
  | engine identity _ => "Validation engine failed for " ++ identity ++ ": "
  | retriesExhausted attempts _ =>
    "Reconciliation cycle failed after " ++ toString attempts ++ " attempts: "
  | config _ => "Configuration error: "
  | pattern => "Invalid namespace ignore pattern: "
  | cluster _ => "Kubernetes API error: "
  | serialization => "Serialization error: "
  | yaml => "YAML error: "
  | io _ => "IO error: "

/-- The text of the error, where it does not hang on a text that is not ours. -/
def message? (error : ScanError) : Option String :=
  let cause := match error with
    | discovery cause | namespaceList cause | list _ _ cause | cluster cause => cause.message?
    | retriesExhausted _ cause => message? cause
    | engine _ message => some message
    | config fault => some fault.message
    | io text => some text
    | pattern | serialization | yaml => none
  cause.map (error.opening ++ ·)

/-- The texts of a refused call and of the refusal behind it. -/
def causeTexts : ClusterError → List String
  | .api failure => (ClusterError.api failure).message?.toList ++ [failure.summary]
  | _ => []

/-- The texts of the causes behind the error, from the nearest on. -/
def chain : ScanError → List String
  | discovery cause | namespaceList cause | list _ _ cause | cluster cause => causeTexts cause
  | retriesExhausted _ cause => cause.message?.toList ++ chain cause
  | io text => [text]
  | _ => []

end ScanError

end ComplianceScanner
