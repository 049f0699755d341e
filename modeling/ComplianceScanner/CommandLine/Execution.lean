import ComplianceScanner.CommandLine.Command
import ComplianceScanner.Engine.Checks
import ComplianceScanner.Release
import ComplianceScanner.Schedule.Run
import ComplianceScanner.Selection.File

/-!
What the commands do. Each but the one for the version builds the engine first, so a fault in the
check selection shows before one in anything else; a client for the cluster comes next.
-/

namespace ComplianceScanner

/-- What a command finds outside. -/
structure Host (World : Type) where
  file : String → SelectionFile
  cluster? : Option (Cluster World)
  clock : Clock World
  world : World

/-- Why a command failed. -/
inductive Failure where
  | loading (cause : ScanError)
  | selection (cause : SelectionError)
  | noClient
  | discovery (error : ScanError)
  | configuration (cause : ScanError)
  | scheduler (cause : ScanError)
deriving DecidableEq

namespace Failure

/-- A failure in words. Only of a failed discovery are they those of the error itself, as far as
they are ours. -/
def text : Failure → String
  | loading _ => "Failed to load check configuration"
  | selection _ => "Invalid check configuration"
  | noClient => "Failed to create Kubernetes client"
  | discovery error => error.message?.getD error.opening
  | configuration _ => "Invalid scanner configuration"
  | scheduler _ => "Reconciliation scheduler stopped with an error"

/-- The error behind a failure, where the words are not those of the error. -/
def cause? : Failure → Option ScanError
  | loading cause | configuration cause | scheduler cause => some cause
  | selection cause => some (.config (.selection cause))
  | noClient | discovery _ => none

end Failure

inductive Ending where
  | success (lines : List String)
  | failure (failure : Failure)
  /-- It was not given the steps that it takes. -/
  | outOfSteps
deriving DecidableEq

def Ending.ofResult : Except Failure (List String) → Ending
  | .ok lines => success lines
  | .error error => failure error

namespace Command

variable {World : Type}

def checkEngine (host : Host World) (configFile : Option String) : Except Failure CheckEngine :=
  match Selection.load (configFile.map host.file) with
  | .error error => .error (.loading error)
  | .ok selection => (CheckEngine.ofSelection selection .empty).mapError .selection

def client (host : Host World) : Except Failure (Cluster World) :=
  match host.cluster? with
  | some cluster => .ok cluster
  | none => .error .noClient

def describe (engine : CheckEngine) (check : Check) : List String :=
  let mark := if engine.isEnabled check.name then "x" else " "
  ["[" ++ mark ++ "] " ++ check.name ++ " (" ++ check.scope.name ++ ")",
   "      " ++ check.description,
   "      Remediation: " ++ check.remediation]

def listChecks (host : Host World) (configFile : Option String) :
    Except Failure (List String) :=
  (checkEngine host configFile).map fun engine => Check.all.flatMap (describe engine)

def showResource (resource : ResourceType) : String :=
  resource.display ++ " (" ++ resource.plural ++ ", " ++
    (if resource.namespaced then "namespaced" else "cluster") ++ ")"

/-- A scan in the world of the host, to which the engine is added. -/
abbrev Site (World : Type) := World × CheckEngine

def siteCluster (cluster : Cluster World) : Cluster (Site World) :=
  cluster.within Prod.fst fun world site => (world, site.2)

def siteEngine : Engine (Site World) :=
  CheckEngine.asEngine.within Prod.snd fun engine site => (site.1, engine)

def siteClock (clock : Clock World) : Clock (Site World) :=
  clock.within Prod.fst fun world site => (world, site.2)

def listResources (host : Host World) (configFile : Option String) : Ending :=
  match do return (← checkEngine host configFile, ← client host) with
  | .error error => .failure error
  | .ok (engine, cluster) =>
    match (Discovery.run (siteCluster cluster) siteEngine (host.world, engine)).1 with
    | .ok resources => .success (resources.map showResource)
    | .error (.failed error) => .failure (.discovery error)
    | .error .cutOff => .success []
    | .error .outOfSteps => .outOfSteps

/-- Scans until told to stop or a cycle has failed too often, with at most so many cycles and pages
in a listing. -/
def scan (host : Host World) (options : RunOptions) (steps : Nat) : Ending :=
  match do return (← checkEngine host options.configFile, ← client host) with
  | .error error => .failure error
  | .ok (engine, cluster) =>
    match Scheduler.ofConfig options.scannerConfig engine.generation with
    | .error error => .failure (.configuration error)
    | .ok scheduler =>
      match (Run.toEnd (siteCluster cluster) siteEngine (siteClock host.clock) steps steps
          { scheduler, world := (host.world, engine) }).1 with
      | .failed error => .failure (.scheduler error)
      | .cutOff => .success []
      | .outOfSteps => .outOfSteps

def execute (host : Host World) (steps : Nat) : Command → Ending
  | run options => scan host options steps
  | checks configFile => .ofResult (listChecks host configFile)
  | discover configFile => listResources host configFile
  | version => .success [Release.program ++ " v" ++ Release.version]

end Command

end ComplianceScanner
