namespace ComplianceScanner

/-- What one successful cycle did. -/
structure CycleReport where
  resourceTypes : Nat := 0
  namespaces : Nat := 0
  objectsSeen : Nat := 0
  validated : Nat := 0
  cacheHits : Nat := 0
  engineErrors : Nat := 0
  deleted : Nat := 0
deriving DecidableEq, Repr

/-- What became of the listed objects of one kind; those without a name are seen, and no more. -/
structure Tally where
  seen : Nat := 0
  validated : Nat := 0
  hits : Nat := 0
  failures : Nat := 0
deriving DecidableEq, Repr

namespace Tally

def see (tally : Tally) : Tally := { tally with seen := tally.seen + 1 }

def hit (tally : Tally) : Tally := { tally with hits := tally.hits + 1 }

def validate (tally : Tally) : Tally := { tally with validated := tally.validated + 1 }

def fail (tally : Tally) : Tally := { tally with failures := tally.failures + 1 }

end Tally

/-- The report with what the scan of one kind adds to it. -/
def CycleReport.add (report : CycleReport) (tally : Tally) (deleted : Nat) : CycleReport :=
  { report with
    objectsSeen := report.objectsSeen + tally.seen
    validated := report.validated + tally.validated
    cacheHits := report.cacheHits + tally.hits
    engineErrors := report.engineErrors + tally.failures
    deleted := report.deleted + deleted }

end ComplianceScanner
