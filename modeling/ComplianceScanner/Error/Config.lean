import ComplianceScanner.Decimal.Layout
import ComplianceScanner.Selection.Basic
import ComplianceScanner.Text.Quoted

namespace ComplianceScanner

inductive ConfigError where
  | selection (error : SelectionError)
  | zeroInterval
  | intervalTooLong (limit seconds : Nat)
  | retryDelayTooLong (limit : Nat)
  | zeroPageSize
  | zeroAttempts
  | multiplierTooSmall (multiplier : Float)
  | relativeMetricsPath (path : String)
  /-- A fault that is known by its text only. -/
  | stated (text : String)
deriving DecidableEq

def ConfigError.message : ConfigError → String
  | selection error => error.message
  | zeroInterval => "Reconcile interval must be greater than zero"
  | intervalTooLong limit seconds =>
    "Reconcile interval must be at most " ++ toString limit ++ "s, got " ++
      toString seconds ++ "s"
  | retryDelayTooLong limit => "Retry delays must be at most " ++ toString limit ++ "s"
  | zeroPageSize => "Resources per list query must be greater than zero"
  | zeroAttempts => "Retry attempts must be greater than zero"
  | multiplierTooSmall multiplier =>
    "Backoff multiplier must be at least 1.0, got " ++ Decimal.plain.text multiplier
  | relativeMetricsPath path => "Metrics path must start with '/', got " ++ Text.quoted path
  | stated text => text

end ComplianceScanner
