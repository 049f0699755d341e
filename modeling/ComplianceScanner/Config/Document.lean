import ComplianceScanner.Config.Scanner
import ComplianceScanner.Json.Basic

/-!
A scanner configuration as a JSON document. Each record is an object with the members below or an
array of their values in that order. Every member is required but the pattern of an object; members
of other names are passed over, except in a duration.
-/

namespace ComplianceScanner

namespace Json

/-- The values of a record with members of these names; where one is missing, `null` if it may be
left out. -/
def record? (json : Json) (names : List (String × Bool)) : Option (List Json) :=
  match json with
  | .arr items => if items.length = names.length then some items else none
  | .obj members => names.mapM fun (name, optional) =>
    match members.lookup name with
    | some value => some value
    | none => if optional then some .null else none
  | _ => none

def float? : Json → Option Float
  | .int value => some (Float.ofInt value)
  | .float value => some value
  | _ => none

def optionalText? : Json → Option (Option String)
  | .null => some none
  | .str text => some (some text)
  | _ => none

end Json

namespace Duration

def toJson (d : Duration) : Json :=
  Json.ofMembers [("secs", .int d.seconds), ("nanos", .int d.subsecond)]

def ofJson? (json : Json) : Option Duration := do
  let known := (json.obj?.getD []).all fun (name, _) => name = "secs" || name = "nanos"
  match ← json.record? [("secs", false), ("nanos", false)] with
  | [seconds, nanoseconds] =>
    if known then
      ofParts? (← seconds.natBelow? UInt64.size) (← nanoseconds.natBelow? UInt32.size)
    else none
  | _ => none

end Duration

namespace BackoffConfig

def toJson (config : BackoffConfig) : Json :=
  Json.ofMembers
    [("max_attempts", .int config.maxAttempts), ("initial_delay", config.initialDelay.toJson),
     ("multiplier", .float config.multiplier), ("max_delay", config.maxDelay.toJson)]

def ofJson? (json : Json) : Option BackoffConfig := do
  match ← json.record? [("max_attempts", false), ("initial_delay", false),
      ("multiplier", false), ("max_delay", false)] with
  | [attempts, initial, multiplier, longest] =>
    some {
      maxAttempts := ← attempts.natBelow? UInt32.size
      initialDelay := ← Duration.ofJson? initial
      multiplier := ← multiplier.float?
      maxDelay := ← Duration.ofJson? longest }
  | _ => none

end BackoffConfig

namespace ScannerConfig

def toJson (config : ScannerConfig) : Json :=
  Json.ofMembers
    [("interval", config.interval.toJson), ("page_size", .int config.pageSize),
     ("namespace_ignore_pattern", (config.ignorePattern.map Json.str).getD .null),
     ("backoff", config.backoff.toJson)]

def ofJson? (json : Json) : Option ScannerConfig := do
  match ← json.record? [("interval", false), ("page_size", false),
      ("namespace_ignore_pattern", true), ("backoff", false)] with
  | [interval, pageSize, pattern, backoff] =>
    some {
      interval := ← Duration.ofJson? interval
      pageSize := ← pageSize.natBelow? UInt32.size
      ignorePattern := ← pattern.optionalText?
      backoff := ← BackoffConfig.ofJson? backoff }
  | _ => none

end ScannerConfig

end ComplianceScanner
