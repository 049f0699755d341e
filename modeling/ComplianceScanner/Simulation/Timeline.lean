import ComplianceScanner.Schedule.Run

/-!
The states of a run as one sees them who looks on: how each cycle after the first came to start, and
no wait that was over when it began.
-/

namespace ComplianceScanner

/-- How a cycle came to start: about an interval after the cycle before, or at once when that one
had taken longer. -/
inductive Tick where
  | jittered
  | overrun
deriving DecidableEq, Repr

namespace Timeline

/-- A state and, for the first try of a cycle, how that came to start. -/
structure Event where
  state : SchedulerState
  tick : Option Tick := none

/-- The cycle start is within a tenth of the interval of its time. -/
def tick (interval started before : Duration) : Tick :=
  if 10 * (started.nanoseconds - before.nanoseconds) ≤ 11 * interval.nanoseconds then .jittered
  else .overrun

def isWait : SchedulerState → Bool
  | .backoff _ _ _ | .waitingForTick _ _ => true
  | _ => false

/-- The state was a wait, and the next one came at once and not because the run was stopped. -/
def isOver (published : Published) (next : Option Published) : Bool :=
  isWait published.state &&
    next.any fun next => next.time = published.time && next.state ≠ .stopped

/-- `before` is the start of the cycle before. -/
def events (interval : Duration) : Option Duration → List Published → List Event
  | _, [] => []
  | before, p :: rest =>
    match p.state with
    | .running _ 1 =>
      { state := p.state, tick := before.map (tick interval p.time) } ::
        events interval (some p.time) rest
    | state =>
      if isOver p rest.head? then events interval before rest
      else { state } :: events interval before rest

end Timeline

end ComplianceScanner
