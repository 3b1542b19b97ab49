import MetricDesk.Plan.Vocabulary
import MetricDesk.Series.Cells
import MetricDesk.Series.Query

/-! Resolving a query: which series it needs from a source, and how it is made of them. Most
metrics have a series of their own. Revenue per user is the quotient of two totals, and revenue
by group, which no table holds, is the total split in proportion to daily users. -/
namespace MetricDesk

/-- How a query is made of fetched series. -/
inductive Recipe where
  | native (q : Query)
  /-- A total split by shares. -/
  | apportioned (total shares : Query)
  /-- A quotient of two totals. -/
  | quotient (value divisor : Query)

namespace Recipe

def of (q : Query) : Except Failure Recipe :=
  match Metric.ofName? q.metric with
  | none => .error (.missingKey q.metric)
  | some .arpdau =>
    let totals := { q with breakdowns := [] }
    .ok (.quotient { totals with metric := Metric.revenue.name }
      { totals with metric := Metric.dau.name })
  | some .revenue =>
    if q.breakdowns.isEmpty then .ok (.native q)
    else .ok (.apportioned { q with breakdowns := [] } { q with metric := Metric.dau.name })
  | some _ => .ok (.native q)

/-- The queries that go to the source, in the order in which they are issued. -/
def needs : Recipe → List Query
  | .native q => [q]
  | .apportioned total shares => [total, shares]
  | .quotient value divisor => [value, divisor]

/-- A series of its own is known a step earlier than the parts of a composed one. -/
def isNative : Recipe → Bool
  | .native _ => true
  | _ => false

/-- The series made of the fetched ones, which stand in the order of the needs. -/
def make [Quantity α] : Recipe → List (List (SeriesRow α)) → Except Failure (List (SeriesRow α))
  | .native _, [rows] => .ok rows
  | .apportioned .., [total, shares] => Series.apportion total shares
  | .quotient .., [value, divisor] => Series.quotient value divisor
  | _, _ => .ok []

/-- The series from a source. -/
def resolve (source : Source) (r : Recipe) : Outcome (List (SeriesRow Double)) :=
  (Outcome.all (r.needs.map (Query.fetch source))).andThen r.make

/-- The rows of a series made of fetched ones. A breakdown may be named like the day or the value of
a row and then takes its place, in shares before they are split. -/
def makeRows : Recipe → List (List (SeriesRow Double)) → Except Failure (List Fields)
  | .native _, [rows] => .ok (rows.map (·.toFields))
  | .apportioned _ q, [total, shares] =>
    Cells.apportion q.breakdowns (total.map fun row => .obj row.toFields)
      (shares.map fun row => .obj row.toFields)
  | .quotient .., [value, divisor] => do
    return (← Series.quotient value divisor).map (·.toComposed .dbl)
  | _, _ => .ok []

/-- The rows from a source. -/
def rows (source : Source) (r : Recipe) : Outcome (List Fields) :=
  (Outcome.all (r.needs.map (Query.fetch source))).andThen r.makeRows

end Recipe
end MetricDesk
