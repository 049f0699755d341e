import ComplianceScanner.Time.Duration

/-!
How long a failed cycle waits before it is tried again: the first delay times a power of the
multiplier, but never longer than the longest delay.
-/

namespace ComplianceScanner

structure BackoffConfig where
  /-- All tries of one cycle, the first one included. -/
  maxAttempts : Nat := 5
  initialDelay : Duration := .ofSeconds 1
  multiplier : Float := 2
  maxDelay : Duration := .ofSeconds 30
deriving DecidableEq

namespace BackoffConfig

/-- `held * base ^ n`, squaring the base for each binary digit of `n` from the lowest on. -/
def timesPower (held base : Float) (n : Nat) : Float :=
  let held := if n % 2 = 1 then held * base else held
  if n / 2 = 0 then held else timesPower held (base * base) (n / 2)
termination_by n

/-- The retry beyond which delays grow no further. -/
def lastGrowingRetry : Nat := 63

/-- A multiplier below one, or no number, counts as one. -/
def growth (config : BackoffConfig) : Float :=
  if 1 < config.multiplier then config.multiplier else 1

/-- The delay before retry number `retry`, counted from 0. -/
def delay (config : BackoffConfig) (retry : Nat) : Duration :=
  let seconds := config.initialDelay.toSeconds *
    timesPower 1 config.growth (min retry lastGrowingRetry)
  if seconds.isNaN || seconds.isInf || config.maxDelay.toSeconds ≤ seconds then config.maxDelay
  else (Duration.ofSecondsFloat? seconds).getD config.maxDelay

end BackoffConfig

end ComplianceScanner
