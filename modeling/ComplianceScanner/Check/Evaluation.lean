import ComplianceScanner.Check.Image
import ComplianceScanner.Check.PodTemplate
import ComplianceScanner.Check.Quantity
import ComplianceScanner.Text.Blank

/-!
The rules behind the checks. Each one looks at the body of a single object and gives the reason
for which the object fails, or nothing when it passes.
-/

namespace ComplianceScanner.Evaluation

open PodTemplate

def hostIpc (kind : String) (data : Json) : Option String :=
  (spec? kind data).bind fun spec =>
    if flag spec ["hostIPC"] then some "resource shares host's IPC namespace (via hostIPC=true)"
    else none

def hostNetwork (kind : String) (data : Json) : Option String :=
  (spec? kind data).bind fun spec =>
    if flag spec ["hostNetwork"] then
      some "resource shares host's network namespace (via hostNetwork=true)"
    else none

def hostPid (kind : String) (data : Json) : Option String :=
  (spec? kind data).bind fun spec =>
    if flag spec ["hostPID"] then
      some "object shares the host's process namespace (via hostPID=true)"
    else none

def isPrivileged (container : Json) : Bool :=
  flag container ["securityContext", "privileged"]

def privilegedContainer (kind : String) (data : Json) : Option String :=
  firstContainer kind data (fun _ container => isPrivileged container) "is privileged"

def addsSysAdmin (container : Json) : Bool :=
  (((container.path? ["securityContext", "capabilities", "add"]).bind Json.arr?).getD []).any
    fun capability =>
      match capability.str? with
      | some name => name = "SYS_ADMIN" || name = "CAP_SYS_ADMIN"
      | none => false

def escalatesPrivileges (container : Json) : Bool :=
  flag container ["securityContext", "allowPrivilegeEscalation"] || isPrivileged container ||
    addsSysAdmin container

def privilegeEscalationContainer (kind : String) (data : Json) : Option String :=
  firstContainer kind data (fun _ container => escalatesPrivileges container)
    "allows privilege escalation"

/-- A member of the security context; that of the container goes before that of the pod, whatever
its value. -/
def securityContext? (pod container : Json) (name : String) : Option Json :=
  (container.path? ["securityContext", name]).or (pod.path? ["securityContext", name])

def mayRunAsRoot (pod container : Json) : Bool :=
  let nonRoot := ((securityContext? pod container "runAsNonRoot").bind Json.bool?).getD false
  let user := (securityContext? pod container "runAsUser").bind Json.int64?
  !(nonRoot || user.any (0 < ·))

def runAsNonRoot (kind : String) (data : Json) : Option String :=
  firstContainer kind data mayRunAsRoot "is not set to runAsNonRoot"

/-- Kernel parameters that are not confined to a pod begin with one of these. -/
def unsafeSysctlBeginnings : List String :=
  ["kernel.msg", "kernel.sem", "kernel.shm", "fs.mqueue.", "net."]

def isUnsafeSysctl (name : String) : Bool :=
  unsafeSysctlBeginnings.any fun beginning => beginning.toList.isPrefixOf name.toList

def unsafeSysctls (kind : String) (data : Json) : Option String :=
  (spec? kind data).bind fun spec =>
    let listed := ((spec.path? ["securityContext", "sysctls"]).bind Json.arr?).getD []
    let names := listed.filterMap fun sysctl => (sysctl.get? "name").bind Json.str?
    (names.find? isUnsafeSysctl).map fun name =>
      "resource specifies unsafe sysctl \"" ++ name ++ "\""

def unsetCpuRequirements (kind : String) (data : Json) : Option String :=
  firstContainer kind data
    (fun _ container => Quantity.isUnset (container.path? ["resources", "requests", "cpu"]))
    "has cpu request 0"

def unsetMemoryRequirements (kind : String) (data : Json) : Option String :=
  firstContainer kind data
    (fun _ container => Quantity.isUnset (container.path? ["resources", "limits", "memory"]))
    "has memory limit 0"

def pdbMaxUnavailable (data : Json) : Option String :=
  (data.path? ["spec", "maxUnavailable"]).bind fun limit =>
    let isZero : Bool := match limit with
      | .int value => value = 0
      | .str text =>
        let trimmed := Text.trim text.toList
        trimmed = "0".toList || trimmed = "0%".toList
      | _ => false
    if isZero then some "MaxUnavailable is set to 0" else none

def latestTag (kind : String) (data : Json) : Option String :=
  firstContainer kind data
    (fun _ container => Image.isFloating (((container.get? "image").bind Json.str?).getD ""))
    "uses a floating image tag"

/-- Kinds with a number of replicas. -/
def replicatedKinds : List String :=
  ["Deployment", "StatefulSet", "ReplicaSet", "ReplicationController", "DeploymentConfig"]

def replicas? (data : Json) : Option Int :=
  (data.path? ["spec", "replicas"]).bind Json.int64?

def minimumThreeReplicas (kind : String) (data : Json) : Option String :=
  if replicatedKinds.contains kind then
    let replicas := (replicas? data).getD 1
    if replicas < 3 then
      some ("object has " ++ toString replicas ++ " replica(s) but at least 3 are required")
    else none
  else none

end ComplianceScanner.Evaluation
