import ComplianceScanner.Schedule.Cycle
import ComplianceScanner.Schedule.State
import ComplianceScanner.Time.Jitter

/-!
Cycle after cycle until the scanner is told to stop or a cycle has failed too often. A failed cycle
is tried again after a growing delay; the next cycle starts an interval after the last one started,
or at once where that took longer.
-/

namespace ComplianceScanner

inductive Wake where
  | due
  | cancelled
deriving DecidableEq

structure Clock (World : Type) where
  now : World → Duration
  date : World → Timestamp
  isCancelled : World → Bool
  /-- Draws the share of the interval by which the next tick moves. -/
  drawOffset : World → Float × World
  /-- Waits until a point in time. -/
  awaitTick : Duration → World → Wake × World
  /-- Waits for so long. -/
  awaitRetry : Duration → World → Wake × World

namespace Clock

/-- A clock on which no time passes: whatever is waited for is due. -/
def still {World : Type} : Clock World where
  now _ := .zero
  date _ := ⟨0, 0⟩
  isCancelled _ := false
  drawOffset world := (0, world)
  awaitTick _ world := (.due, world)
  awaitRetry _ world := (.due, world)

/-- The clock as a part of a larger world. -/
def within {World Part : Type} (clock : Clock Part) (part : World → Part)
    (replace : Part → World → World) : Clock World where
  now world := clock.now (part world)
  date world := clock.date (part world)
  isCancelled world := clock.isCancelled (part world)
  drawOffset world :=
    let (offset, inner) := clock.drawOffset (part world)
    (offset, replace inner world)
  awaitTick tick world :=
    let (wake, inner) := clock.awaitTick tick (part world)
    (wake, replace inner world)
  awaitRetry delay world :=
    let (wake, inner) := clock.awaitRetry delay (part world)
    (wake, replace inner world)

end Clock

structure Published where
  time : Duration
  state : SchedulerState
deriving DecidableEq

/-- A run of the scheduler: all that it has published so far, oldest first. -/
structure Run (World : Type) where
  scanning : Scanning World
  published : List Published := []

namespace Scanning

variable {World : Type}

def observe (success : Bool) (length : Duration) (s : Scanning World) : Scanning World :=
  { s with scheduler :=
    { s.scheduler with metrics := s.scheduler.metrics.observeCycle success length.toSeconds } }

def countError (error : ScanError) (s : Scanning World) : Scanning World :=
  { s with scheduler :=
    { s.scheduler with metrics := s.scheduler.metrics.countCycleError error.label } }

def complete (s : Scanning World) : Scanning World :=
  { s with scheduler := { s.scheduler with completed := s.scheduler.completed + 1 } }

end Scanning

namespace Run

variable {World : Type}

def publish (clock : Clock World) (state : SchedulerState) (run : Run World) : Run World :=
  { run with published := run.published ++ [⟨clock.now run.scanning.world, state⟩] }

def withWorld (run : Run World) (world : World) : Run World :=
  { run with scanning := { run.scanning with world } }

def elapsed (clock : Clock World) (started : Duration) (s : Scanning World) : Duration :=
  ⟨(clock.now s.world).nanoseconds - started.nanoseconds⟩

/-- Tries one cycle, beginning with attempt number `attempt`, and after it `left` times more. -/
def tryCycle (cluster : Cluster World) (engine : Engine World) (clock : Clock World)
    (steps left attempt : Nat) (run : Run World) : Except Stop CycleReport × Run World :=
  let cycle := run.scanning.scheduler.completed + 1
  let run := run.publish clock (.running cycle attempt)
  if clock.isCancelled run.scanning.world then (.error .cutOff, run)
  else
    let started := clock.now run.scanning.world
    match run.scanning.runCycle cluster engine steps with
    | (.error .cutOff, s) => (.error .cutOff, { run with scanning := s })
    | (.error .outOfSteps, s) => (.error .outOfSteps, { run with scanning := s })
    | (.ok report, s) =>
      (.ok report, { run with scanning := (s.observe true (elapsed clock started s)).complete })
    | (.error (.failed error), s) =>
      let run :=
        { run with scanning := (s.observe false (elapsed clock started s)).countError error }
      if !error.isRetriable then (.error (.failed error), run)
      else
        match left with
        | 0 => (.error (.failed (.retriesExhausted attempt error)), run)
        | left + 1 =>
          let delay := run.scanning.scheduler.config.backoff.delay (attempt - 1)
          let run := run.publish clock (.backoff cycle attempt delay)
          match clock.awaitRetry delay run.scanning.world with
          | (.cancelled, world) => (.error .cutOff, run.withWorld world)
          | (.due, world) =>
            tryCycle cluster engine clock steps left (attempt + 1) (run.withWorld world)

/-- Runs at most `cycles` cycles, and says why it stopped. -/
def cycleUntilStopped (cluster : Cluster World) (engine : Engine World) (clock : Clock World)
    (steps : Nat) : Nat → Run World → Stop × Run World
  | 0, run => (.outOfSteps, run)
  | cycles + 1, run =>
    if clock.isCancelled run.scanning.world then (.cutOff, run)
    else
      let config := run.scanning.scheduler.config
      let started := clock.now run.scanning.world
      match run.tryCycle cluster engine clock steps (config.backoff.maxAttempts - 1) 1 with
      | (.error stop, run) => (stop, run)
      | (.ok _, run) =>
        let (offset, world) := clock.drawOffset run.scanning.world
        let length := Jitter.draw config.interval offset
        let run := (run.withWorld world).publish clock
          (.waitingForTick run.scanning.scheduler.completed (clock.date world))
        match clock.awaitTick ⟨started.nanoseconds + length.nanoseconds⟩ world with
        | (.cancelled, world) => (.cutOff, run.withWorld world)
        | (.due, world) =>
          cycleUntilStopped cluster engine clock steps cycles (run.withWorld world)

/-- A whole run, of at most `cycles` cycles. Being told to stop is no failure. -/
def toEnd (cluster : Cluster World) (engine : Engine World) (clock : Clock World)
    (steps cycles : Nat) (s : Scanning World) : Stop × Run World :=
  match cycleUntilStopped cluster engine clock steps cycles { scanning := s } with
  | (.outOfSteps, run) => (.outOfSteps, run)
  | (stop, run) => (stop, run.publish clock .stopped)

end Run

end ComplianceScanner
