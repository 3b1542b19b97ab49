import MetricDesk.Plan.Basic
import MetricDesk.Value.Wire

/-! Results: the computed answer to a plan for one tenant. Numbers of the summary and the series
are doubles; rows of the table and the attribution are kept as they were made. -/
namespace MetricDesk

structure Summary where
  value : Double
  previous : Option Double
  change : Option Double
  changePercent : Option Double
  deriving DecidableEq

structure Point where
  date : String
  value : Double
  deriving DecidableEq

structure Result where
  question : String
  tenant : String
  plan : Plan
  summary : Summary
  series : List Point
  table : List Fields
  attribution : List Fields
  confidence : Confidence

/-- A double, or null for none. -/
def Value.ofDouble? : Option Double → Value
  | some x => .dbl x
  | none => .null

def Summary.toValue (s : Summary) : Value := .obj [
  ("value", .dbl s.value),
  ("previous", .ofDouble? s.previous),
  ("change", .ofDouble? s.change),
  ("changePct", .ofDouble? s.changePercent)]

def Point.toValue (p : Point) : Value := .obj [("date", .str p.date), ("value", .dbl p.value)]

namespace Result

/-- The wire form. -/
def toFields (r : Result) : Fields := [
  ("question", .str r.question),
  ("context", .obj [("tenant_id", .str r.tenant), ("plan", r.plan.toValue)]),
  ("summary", r.summary.toValue),
  ("timeseries", .list (r.series.map Point.toValue)),
  ("breakdown_table", .list (r.table.map fun row => .obj (Value.wireFields row))),
  ("attribution", .list (r.attribution.map fun row => .obj (Value.wireFields row))),
  ("confidence", .str r.confidence.name)]

def toValue (r : Result) : Value := .obj r.toFields

/-- The keys of the wire form, in order. -/
def keys : List String := ["question", "context", "summary", "timeseries", "breakdown_table",
  "attribution", "confidence"]

end Result
end MetricDesk
