import ComplianceScanner.Decimal.Layout
import ComplianceScanner.Engine.Gauge
import ComplianceScanner.Metrics.Basic

/-!
The metrics as text: for each family a line of help, one of its type, and a line for each sample,
and a mark at the end. Label values stand as they are.
-/

namespace ComplianceScanner.Exposition

structure Sample where
  suffix : String := ""
  labels : List (String × String)
  value : String

structure Family where
  name : String
  help : String
  type : String
  samples : List Sample

def Sample.text (family : String) (sample : Sample) : String :=
  let labels := sample.labels.map fun (name, value) => name ++ "=\"" ++ value ++ "\""
  family ++ sample.suffix ++ "\x7b" ++ ",".intercalate labels ++ "\x7d " ++ sample.value ++ "\n"

def Family.text (family : Family) : String :=
  "# HELP " ++ family.name ++ " " ++ family.help ++ ".\n" ++
    "# TYPE " ++ family.name ++ " " ++ family.type ++ "\n" ++
    String.join (family.samples.map (Sample.text family.name))

def counterSamples (label : String) (family : CounterFamily) : List Sample :=
  family.toList.map fun (value, count) =>
    { suffix := "_total", labels := [(label, value)], value := toString count }

def seriesLabels (key : SeriesKey) : List (String × String) :=
  [("check", key.check), ("namespace_uid", key.labels.namespaceUid),
   ("namespace", key.labels.namespaceName), ("uid", key.labels.uid),
   ("name", key.labels.name), ("kind", key.labels.kind)]

def gaugeSamples (gauge : CheckGauge) : List Sample :=
  gauge.toList.map fun (key, value) => { labels := seriesLabels key, value := toString value }

/-- The bound of the last bucket is written as infinite. -/
def boundTexts : List String := Histogram.finiteBounds.map Decimal.sample.text ++ ["+Inf"]

def histogramSamples (outcome : String) (histogram : Histogram) : List Sample :=
  let labels := [("outcome", outcome)]
  { suffix := "_sum", labels, value := Decimal.sample.text histogram.sum } ::
    { suffix := "_count", labels, value := toString histogram.count } ::
    List.zipWith
      (fun bound count =>
        { suffix := "_bucket", labels := ("le", bound) :: labels, value := toString count })
      boundTexts (Histogram.cumulative 0 histogram.buckets)

def checkFailed (gauge : CheckGauge) : Family :=
  { name := "validation_operator_check_failed"
    help := "Set to 1 while an object fails a validation check"
    type := "gauge"
    samples := gaugeSamples gauge }

def families (gauge : CheckGauge) (metrics : Metrics) : List Family :=
  [checkFailed gauge,
   { name := "validation_operator_cycle_duration_seconds"
     help := "Duration of reconciliation cycles in seconds"
     type := "histogram"
     samples := (metrics.succeeded.map (histogramSamples "success")).getD [] ++
      (metrics.failed.map (histogramSamples "failure")).getD [] },
   { name := "validation_operator_cycle_errors"
     help := "Number of failed reconciliation cycle attempts"
     type := "counter"
     samples := counterSamples "kind" metrics.cycleErrors },
   { name := "validation_operator_objects_validated"
     help := "Number of objects sent to the validation engine"
     type := "counter"
     samples := counterSamples "kind" metrics.validated },
   { name := "validation_operator_cache_hits"
     help := "Number of objects skipped because their resource version was unchanged"
     type := "counter"
     samples := counterSamples "kind" metrics.cacheHits },
   { name := "validation_operator_engine_errors"
     help := "Number of objects the validation engine failed to evaluate"
     type := "counter"
     samples := counterSamples "kind" metrics.engineErrors },
   { name := "validation_operator_objects_deleted"
     help := "Number of cache entries evicted because the object disappeared"
     type := "counter"
     samples := counterSamples "kind" metrics.deleted },
   { name := "validation_operator_cached_objects"
     help := "Number of objects held in the validation cache"
     type := "gauge"
     samples := metrics.cached.toList.map fun (kind, count) =>
      { labels := [("kind", kind)], value := toString count } }]

def text (gauge : CheckGauge) (metrics : Metrics) : String :=
  String.join ((families gauge metrics).map Family.text) ++ "# EOF\n"

/-- The lines of a text, without the ends of lines; a carriage return before one belongs to it. -/
def linesOf : List Char → List Char → List (List Char)
  | [], [] => []
  | held, [] => [held.reverse]
  | '\r' :: held, '\n' :: rest => held.reverse :: linesOf [] rest
  | held, '\n' :: rest => held.reverse :: linesOf [] rest
  | held, c :: rest => linesOf (c :: held) rest

def lines (text : String) : List String := (linesOf [] text.toList).map String.ofList

def isComment (line : String) : Bool := line.toList.head? = some '#'

/-- Puts a line into its place among the sorted lines at the front, as far as the next comment. -/
def insertLine (line : String) : List String → List String
  | [] => [line]
  | next :: rest =>
    if isComment next || line ≤ next then line :: next :: rest
    else next :: insertLine line rest

/-- Sorts the lines between comments, since samples have no order of their own. -/
def sorted : List String → List String
  | [] => []
  | line :: rest => if isComment line then line :: sorted rest else insertLine line (sorted rest)

/-- The text of all metrics as lines, samples in order. -/
def allLines (gauge : CheckGauge) (metrics : Metrics) : List String :=
  sorted (lines (text gauge metrics))

def sampleLines (gauge : CheckGauge) (metrics : Metrics) : List String :=
  (allLines gauge metrics).filter (!isComment ·)

def seriesLines (gauge : CheckGauge) : List String :=
  sorted (((checkFailed gauge).samples.map (Sample.text (checkFailed gauge).name)).flatMap lines)

end ComplianceScanner.Exposition
