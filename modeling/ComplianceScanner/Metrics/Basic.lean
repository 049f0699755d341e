import ComplianceScanner.Cache.Set
import ComplianceScanner.Metrics.Histogram

/-!
What the scanner counts about itself. A series comes into being when it is first counted, also by
nothing; counters start again at zero when they run over.
-/

namespace ComplianceScanner

abbrev CounterFamily := Std.ExtTreeMap String UInt64

namespace CounterFamily

def value (family : CounterFamily) (label : String) : UInt64 := (family[label]?).getD 0

def add (family : CounterFamily) (label : String) (count : UInt64) : CounterFamily :=
  family.insert label (family.value label + count)

end CounterFamily

/-- The metric families but for the gauge of failing checks. Durations are told apart by how the
cycle ended, errors by their category, all else by the kind of the objects. -/
structure Metrics where
  succeeded : Option Histogram := none
  failed : Option Histogram := none
  cycleErrors : CounterFamily := ∅
  validated : CounterFamily := ∅
  cacheHits : CounterFamily := ∅
  engineErrors : CounterFamily := ∅
  deleted : CounterFamily := ∅
  cached : Std.ExtTreeMap String Int64 := ∅

namespace Metrics

def empty : Metrics := {}

def observeCycle (metrics : Metrics) (success : Bool) (seconds : Float) : Metrics :=
  if success then
    { metrics with succeeded := some ((metrics.succeeded.getD .empty).observe seconds) }
  else { metrics with failed := some ((metrics.failed.getD .empty).observe seconds) }

def countCycleError (metrics : Metrics) (label : String) : Metrics :=
  { metrics with cycleErrors := metrics.cycleErrors.add label 1 }

def addValidated (metrics : Metrics) (kind : String) (count : UInt64) : Metrics :=
  { metrics with validated := metrics.validated.add kind count }

def addCacheHits (metrics : Metrics) (kind : String) (count : UInt64) : Metrics :=
  { metrics with cacheHits := metrics.cacheHits.add kind count }

def addEngineErrors (metrics : Metrics) (kind : String) (count : UInt64) : Metrics :=
  { metrics with engineErrors := metrics.engineErrors.add kind count }

def addDeleted (metrics : Metrics) (kind : String) (count : UInt64) : Metrics :=
  { metrics with deleted := metrics.deleted.add kind count }

/-- Sizes beyond the signed range show as negative. -/
def setCached (metrics : Metrics) (kind : String) (count : UInt64) : Metrics :=
  { metrics with cached := metrics.cached.insert kind count.toInt64 }

def removeCached (metrics : Metrics) (kind : String) : Metrics :=
  { metrics with cached := metrics.cached.erase kind }

end Metrics

end ComplianceScanner
