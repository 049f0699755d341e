import ComplianceScanner.Resource.Object
import Std.Data.ExtTreeMap

namespace ComplianceScanner

structure SeriesKey where
  check : String
  labels : ObjectLabels
deriving DecidableEq, Repr

namespace SeriesKey

def fields (key : SeriesKey) : List String := key.check :: key.labels.fields

instance : Ord SeriesKey := ⟨compareOn fields⟩

instance : Std.TransOrd SeriesKey := inferInstanceAs (Std.TransCmp (compareOn fields))

instance : Std.LawfulEqOrd SeriesKey where
  eq_of_compare {a b} h := by
    have : fields a = fields b := Std.LawfulEqOrd.eq_of_compare h
    obtain ⟨_, _, _, _, _, _⟩ := a
    obtain ⟨_, _, _, _, _, _⟩ := b
    simp_all [fields, ObjectLabels.fields]

end SeriesKey

structure CheckGauge where
  series : Std.ExtTreeMap SeriesKey Int64 := ∅

namespace CheckGauge

def empty : CheckGauge := {}

def get? (gauge : CheckGauge) (key : SeriesKey) : Option Int64 := gauge.series[key]?

def set (gauge : CheckGauge) (key : SeriesKey) (value : Int64) : CheckGauge :=
  { series := gauge.series.insert key value }

def remove (gauge : CheckGauge) (key : SeriesKey) : CheckGauge :=
  { series := gauge.series.erase key }

def toList (gauge : CheckGauge) : List (SeriesKey × Int64) := gauge.series.toList

end CheckGauge

end ComplianceScanner
