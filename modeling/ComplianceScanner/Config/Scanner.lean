import ComplianceScanner.Config.Backoff
import ComplianceScanner.Error.Config

namespace ComplianceScanner

structure ScannerConfig where
  /-- The time from the start of one cycle to the start of the next, before jitter. -/
  interval : Duration := .ofSeconds 60
  pageSize : Nat := 5
  /-- Namespaces whose names match are not scanned. -/
  ignorePattern : Option String := none
  backoff : BackoffConfig := {}
deriving DecidableEq

namespace ScannerConfig

/-- No interval and no delay may be longer than a week. -/
def longest : Duration := .ofSeconds (7 * 24 * 60 * 60)

def isTooLong (d : Duration) : Bool := decide (longest.nanoseconds < d.nanoseconds)

def fault? (config : ScannerConfig) : Option ConfigError :=
  if config.interval = .zero then some .zeroInterval
  else if isTooLong config.interval then
    some (.intervalTooLong longest.seconds config.interval.seconds)
  else if isTooLong config.backoff.maxDelay || isTooLong config.backoff.initialDelay then
    some (.retryDelayTooLong longest.seconds)
  else if config.pageSize = 0 then some .zeroPageSize
  else if config.backoff.maxAttempts = 0 then some .zeroAttempts
  else if config.backoff.multiplier.isNaN || config.backoff.multiplier < 1 then
    some (.multiplierTooSmall config.backoff.multiplier)
  else none

end ScannerConfig

end ComplianceScanner
