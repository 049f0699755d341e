import ComplianceScanner.CommandLine.Address

/-!
The settings of the command line. Each has a name, under which it is given as an option, and an
environment variable of that name, which counts where the option is not given.
-/

namespace ComplianceScanner

inductive Setting where
  | logFormat
  | configFile
  | ignorePattern
  | pageSize
  | interval
  | maxAttempts
  | initialDelay
  | maxDelay
  | metricsAddress
  | metricsPath
  | reloadInterval
deriving DecidableEq, Repr

namespace Setting

def name : Setting → String
  | logFormat => "log-format"
  | configFile => "config-file"
  | ignorePattern => "namespace-ignore-pattern"
  | pageSize => "resources-per-list-query"
  | interval => "reconcile-interval-secs"
  | maxAttempts => "retry-max-attempts"
  | initialDelay => "retry-initial-delay-ms"
  | maxDelay => "retry-max-delay-secs"
  | metricsAddress => "metrics-addr"
  | metricsPath => "metrics-path"
  | reloadInterval => "config-reload-interval-secs"

/-- The environment variable: the name in capitals, with underscores for hyphens. -/
def environmentName (setting : Setting) : String :=
  String.ofList (setting.name.toList.map fun c => if c = '-' then '_' else c.toUpper)

def ofRun : List Setting :=
  [configFile, ignorePattern, pageSize, interval, maxAttempts, initialDelay, maxDelay,
   metricsAddress, metricsPath, reloadInterval]

def all : List Setting := logFormat :: ofRun

/-- A whole number below `2 ^ 64`; it may have a plus sign. -/
def long? (text : String) : Option Nat :=
  let digits := match text.toList with
    | '+' :: rest => rest
    | other => other
  match ListenAddress.number? 10 UInt64.size digits with
  | some (value, []) => some value
  | _ => none

/-- A whole number below `2 ^ 32`; it may have a sign, so that zero can be negative. -/
def word? (text : String) : Option Nat :=
  match text.toList with
  | '-' :: digits =>
    match ListenAddress.number? 10 1 digits with
    | some (value, []) => some value
    | _ => none
  | _ => (long? text).filter (· < UInt32.size)

/-- Whether the setting can have this value. -/
def admits (setting : Setting) (text : String) : Bool :=
  match setting with
  | logFormat => text = "text" || text = "json"
  | configFile => text ≠ ""
  | ignorePattern | metricsPath => true
  | pageSize | maxAttempts => (word? text).isSome
  | interval | initialDelay | maxDelay | reloadInterval => (long? text).isSome
  | metricsAddress => (ListenAddress.ofText? text).isSome

end Setting

abbrev Settings := List (Setting × String)

end ComplianceScanner
