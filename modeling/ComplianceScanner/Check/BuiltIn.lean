import ComplianceScanner.Check.Evaluation
import ComplianceScanner.Check.Scope

namespace ComplianceScanner

inductive Check where
  | hostIpc
  | hostNetwork
  | hostPid
  | privilegedContainer
  | privilegeEscalationContainer
  | runAsNonRoot
  | unsafeSysctls
  | unsetCpuRequirements
  | unsetMemoryRequirements
  | pdbMaxUnavailable
  | latestTag
  | minimumThreeReplicas
deriving DecidableEq, Repr

namespace Check

def all : List Check :=
  [hostIpc, hostNetwork, hostPid, privilegedContainer, privilegeEscalationContainer,
   runAsNonRoot, unsafeSysctls, unsetCpuRequirements, unsetMemoryRequirements,
   pdbMaxUnavailable, latestTag, minimumThreeReplicas]

def name : Check → String
  | hostIpc => "host-ipc"
  | hostNetwork => "host-network"
  | hostPid => "host-pid"
  | privilegedContainer => "privileged-container"
  | privilegeEscalationContainer => "privilege-escalation-container"
  | runAsNonRoot => "run-as-non-root"
  | unsafeSysctls => "unsafe-sysctls"
  | unsetCpuRequirements => "unset-cpu-requirements"
  | unsetMemoryRequirements => "unset-memory-requirements"
  | pdbMaxUnavailable => "pdb-max-unavailable"
  | latestTag => "latest-tag"
  | minimumThreeReplicas => "minimum-three-replicas"

def description : Check → String
  | hostIpc => "Alert on pods/deployment-likes with sharing host's IPC namespace"
  | hostNetwork => "Alert on pods/deployment-likes with sharing host's network namespace"
  | hostPid => "Alert on pods/deployment-likes with sharing host's process namespace"
  | privilegedContainer =>
    "Indicates when deployments have containers running in privileged mode."
  | privilegeEscalationContainer =>
    "Alert on containers of allowing privilege escalation that could gain more privileges than its parent process."
  | runAsNonRoot => "Indicates when containers are not set to runAsNonRoot."
  | unsafeSysctls =>
    "Alert on deployments specifying unsafe sysctls that may lead to severe problems like wrong behavior of containers"
  | unsetCpuRequirements => "Indicates when containers do not have CPU requests set."
  | unsetMemoryRequirements => "Indicates when containers do not have memory limits set."
  | pdbMaxUnavailable =>
    "Indicates when a PodDisruptionBudget has a maxUnavailable value that will always prevent disruptions of pods."
  | latestTag =>
    "Indicates when a deployment-like object is running a container with a floating image tag, \"latest\" or none."
  | minimumThreeReplicas => "Indicates when a deployment uses less than three replicas."

def remediation : Check → String
  | hostIpc => "Ensure the host's IPC namespace is not shared."
  | hostNetwork => "Ensure the host's network namespace is not shared."
  | hostPid => "Ensure the host's process namespace is not shared."
  | privilegedContainer => "Do not run your container as privileged unless it is required."
  | privilegeEscalationContainer =>
    "Ensure containers do not allow privilege escalation by setting allowPrivilegeEscalation=false, privileged=false and removing the CAP_SYS_ADMIN capability."
  | runAsNonRoot =>
    "Set runAsUser to a non-zero number and runAsNonRoot to true in your pod or container securityContext."
  | unsafeSysctls =>
    "Ensure container does not allow unsafe allocation of system resources by removing unsafe sysctls configurations."
  | unsetCpuRequirements => "Set CPU requests for your container based on its requirements."
  | unsetMemoryRequirements =>
    "Set memory limits for your container based on its requirements."
  | pdbMaxUnavailable =>
    "Change the PodDisruptionBudget to have maxUnavailable set to a value greater than 0."
  | latestTag => "Use a container image with a specific tag other than latest."
  | minimumThreeReplicas =>
    "Increase the number of replicas in your deployment to at least three to increase fault tolerance."

def scope : Check → CheckScope
  | pdbMaxUnavailable => .podDisruptionBudget
  | _ => .deploymentLike

def enabledByDefault : Check → Bool
  | latestTag | minimumThreeReplicas => false
  | _ => true

/-- The reason for which an object of this kind and body fails, if it does. -/
def evaluate (check : Check) (kind : String) (data : Json) : Option String :=
  match check with
  | hostIpc => Evaluation.hostIpc kind data
  | hostNetwork => Evaluation.hostNetwork kind data
  | hostPid => Evaluation.hostPid kind data
  | privilegedContainer => Evaluation.privilegedContainer kind data
  | privilegeEscalationContainer => Evaluation.privilegeEscalationContainer kind data
  | runAsNonRoot => Evaluation.runAsNonRoot kind data
  | unsafeSysctls => Evaluation.unsafeSysctls kind data
  | unsetCpuRequirements => Evaluation.unsetCpuRequirements kind data
  | unsetMemoryRequirements => Evaluation.unsetMemoryRequirements kind data
  | pdbMaxUnavailable => Evaluation.pdbMaxUnavailable data
  | latestTag => Evaluation.latestTag kind data
  | minimumThreeReplicas => Evaluation.minimumThreeReplicas kind data

def ofName? (name : String) : Option Check :=
  all.find? (·.name = name)

end Check

end ComplianceScanner
