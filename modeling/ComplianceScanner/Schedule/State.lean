import ComplianceScanner.Config.Document
import ComplianceScanner.Time.Timestamp

namespace ComplianceScanner

inductive SchedulerState where
  | idle
  | running (cycle attempt : Nat)
  | backoff (cycle attempt : Nat) (delay : Duration)
  | waitingForTick (completed : Nat) (lastCompleted : Timestamp)
  | stopped
deriving DecidableEq

namespace SchedulerState

def completedCycles : SchedulerState → Nat
  | running cycle _ | backoff cycle _ _ => cycle - 1
  | waitingForTick completed _ => completed
  | idle | stopped => 0

/-- Ready as soon as a cycle is completed. -/
def isReady (state : SchedulerState) : Bool := decide (0 < state.completedCycles)

def toJson : SchedulerState → Json
  | idle => Json.ofMembers [("state", .str "idle")]
  | running cycle attempt =>
    Json.ofMembers [("state", .str "running"), ("cycle", .int cycle), ("attempt", .int attempt)]
  | backoff cycle attempt delay =>
    Json.ofMembers
      [("state", .str "backoff"), ("cycle", .int cycle), ("attempt", .int attempt),
       ("delay", delay.toJson)]
  | waitingForTick completed lastCompleted =>
    Json.ofMembers
      [("state", .str "waitingForTick"), ("completed_cycles", .int completed),
       ("last_completed", .str lastCompleted.text)]
  | stopped => Json.ofMembers [("state", .str "stopped")]

end SchedulerState

end ComplianceScanner
