import MetricDesk.Analysis.Attribution
import MetricDesk.Plan.Basic
import MetricDesk.Result.Basic

/-! The analysis that answers a plan, computed from its series. -/
namespace MetricDesk

/-- The series of a plan: of its window and of the one before, whole and by group. Those that
the plan does not ask for are empty. -/
structure PlanSeries (α : Type) where
  current : List (SeriesRow α)
  groups : List (SeriesRow α)
  previous : List (SeriesRow α)
  previousGroups : List (SeriesRow α)

structure Analysis (α : Type) where
  value : α
  previous : Option α
  change : Option α
  changePercent : Option α
  series : List (SeriesRow α)
  table : List (TableRow α)
  attribution : List (AttributionRow α)
  confidence : Confidence

namespace Analysis

/-- The rolled-up value of a series with two decimal places. -/
def headline [Quantity α] (plan : Plan) (rows : List (SeriesRow α)) : Except Failure α := do
  Quantity.round 2 (← aggregate plan.metric.rollup (rows.map (·.value)))

/-- Confidence is low where groups were asked for and none could be compared. -/
def confidenceOf (plan : Plan) (attribution : List (AttributionRow α)) : Confidence :=
  if !plan.breakdowns.isEmpty && attribution.isEmpty then .low else .high

def ofSeries [Quantity α] (plan : Plan) (s : PlanSeries α) : Except Failure (Analysis α) := do
  let how := plan.metric.rollup
  let value ← headline plan s.current
  let table ← TableRow.ofSeries how plan.groups s.groups
  if plan.comparing then
    let previous ← headline plan s.previous
    let change ← Quantity.round 2 (← Quantity.sub value previous)
    let changePercent ← percentChange change previous
    let before ← TableRow.ofSeries how plan.groups s.previousGroups
    let attribution ← AttributionRow.ofTables plan.groups table before
    return ⟨value, some previous, some change, changePercent, s.current, table, attribution,
      confidenceOf plan attribution⟩
  else
    return ⟨value, none, none, none, s.current, table, [], confidenceOf plan ([] : List
      (AttributionRow α))⟩

/-- The result of an analysis in doubles. -/
def toResult (question tenant : String) (plan : Plan) (a : Analysis Double) : Result where
  question := question
  tenant := tenant
  plan := plan
  summary := ⟨a.value, a.previous, a.change, a.changePercent⟩
  series := a.series.map fun row => ⟨row.day, row.value⟩
  table := a.table.map (·.toFields .dbl)
  attribution := a.attribution.map (·.toFields .dbl)
  confidence := a.confidence

end Analysis
end MetricDesk
