import MetricDesk.Plan.Vocabulary
import MetricDesk.Value.Basic

/-! Plans: what a question asks for, in the vocabulary. -/
namespace MetricDesk

/-- What a filter compares with. -/
inductive FilterValue where
  | text (s : String)
  | number (n : Number)
  deriving DecidableEq

def FilterValue.toValue : FilterValue → Value
  | .text s => .str s
  | .number n => .num n

/-- A filter is carried along and not applied. -/
structure Filter where
  field : String
  op : String
  value : FilterValue
  deriving DecidableEq

def Filter.toValue (f : Filter) : Value :=
  .obj [("field", .str f.field), ("op", .str f.op), ("value", f.value.toValue)]

structure Plan where
  game : String
  metric : Metric
  granularity : Granularity
  days : Nat
  breakdowns : List Breakdown
  comparison : Comparison
  analysis : List String
  filters : List Filter
  mode : ResponseMode
  deriving DecidableEq

namespace Plan

def comparing (p : Plan) : Bool := p.comparison == .previousPeriod

/-- The names of the breakdowns, in the plan's order. -/
def groups (p : Plan) : List String := p.breakdowns.map (·.name)

/-- The wire form. -/
def toFields (p : Plan) : Fields := [
  ("game", .str p.game),
  ("metric", .str p.metric.name),
  ("granularity", .str p.granularity.name),
  ("time_range", .obj [("type", .str timeRangeType), ("n", .nat p.days)]),
  ("breakdowns", .list (p.breakdowns.map fun b => .str b.name)),
  ("comparison", .obj [("type", .str p.comparison.name)]),
  ("analysis", .list (p.analysis.map .str)),
  ("filters", .list (p.filters.map Filter.toValue)),
  ("response_mode", .str p.mode.name)]

def toValue (p : Plan) : Value := .obj p.toFields

/-- The keys of the wire form, in order. -/
def keys : List String := ["game", "metric", "granularity", "time_range", "breakdowns",
  "comparison", "analysis", "filters", "response_mode"]

end Plan
end MetricDesk
