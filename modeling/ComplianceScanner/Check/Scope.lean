namespace ComplianceScanner

/-- Groups and kinds whose objects carry a pod template. -/
def deploymentLikeKinds : List (String × String) :=
  [("", "Pod"),
   ("", "ReplicationController"),
   ("apps", "Deployment"),
   ("extensions", "Deployment"),
   ("apps", "DaemonSet"),
   ("extensions", "DaemonSet"),
   ("apps", "StatefulSet"),
   ("apps", "ReplicaSet"),
   ("extensions", "ReplicaSet"),
   ("batch", "Job"),
   ("batch", "CronJob"),
   ("apps.openshift.io", "DeploymentConfig")]

def isDeploymentLike (group kind : String) : Bool :=
  deploymentLikeKinds.contains (group, kind)

/-- The objects that a check applies to. -/
inductive CheckScope where
  | deploymentLike
  | podDisruptionBudget
deriving DecidableEq, Repr

namespace CheckScope

def all : List CheckScope := [deploymentLike, podDisruptionBudget]

def covers (scope : CheckScope) (group kind : String) : Bool :=
  match scope with
  | deploymentLike => isDeploymentLike group kind
  | podDisruptionBudget => group = "policy" && kind = "PodDisruptionBudget"

def name : CheckScope → String
  | deploymentLike => "deployment-like"
  | podDisruptionBudget => "pod-disruption-budget"

end CheckScope

end ComplianceScanner
