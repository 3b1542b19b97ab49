import MetricDesk.Analysis.Attribution
import MetricDesk.Calendar.Window
import MetricDesk.Series.Cells

/-! Analyses of rows as a caller hands them in: each field is looked up when it is needed, and a
missing one is a failure. -/
namespace MetricDesk.Cells

/-- The labels of breakdowns, empty where there are none. -/
def labels (row : Value) (breakdowns : List String) : Except Failure Fields := do
  let fields ← fieldsOf row
  return breakdowns.map fun b => (b, (fields.get? b).getD (.str ""))

/-- The breakdown table of rows. A label may be missing, and an empty value counts as zero. -/
def table (how : Rollup) (breakdowns : List String) (rows : List Value) :
    Except Failure (List Fields) := do
  if breakdowns.isEmpty then return []
  let series ← rows.mapM fun row => do
    let fields ← fieldsOf row
    return SeriesRow.mk "" (Fields.ofEntries (← labels row breakdowns))
      (← (Value.getD fields "value").measured)
  return (← TableRow.ofSeries how breakdowns series).map (·.toFields Value.dbl)

/-- The attribution between rows of two tables. -/
def attribution (breakdowns : List String) (current previous : List Value) :
    Except Failure (List Fields) := do
  if breakdowns.isEmpty then return []
  let before ← previous.mapM fun row => do
    return TableRow.mk (← labels row breakdowns) (← require row "value")
  let rows ← current.mapM fun row => do
    let _ ← fieldsOf row
    let labels ← breakdowns.mapM fun b => do return (b, ← require row b)
    AttributionRow.ofRow breakdowns before
      (TableRow.mk (Fields.ofEntries labels) (← require row "value"))
  return (← AttributionRow.ranked rows).map (·.toFields id)

/-- So many days that end with `today`, of which there may be a part at the start. -/
def window (days : Value) (today : Date) : Except Failure Window := do
  match ← Value.sub days (.nat 1) with
  | .num (.dbl x) =>
    let micros ← arithmetic (Span.ofDoubleDays x)
    calendar (Window.lastDays ((Span.parts micros).1 + 1) today)
  | .num (.int n) => calendar (Window.lastDays (n + 1) today)
  | v => throw (.operands "-" v.kind "int")

/-- Rows of a source in their common form. -/
def normalised (breakdowns : List String) (rows : List Value) : Except Failure (List Fields) :=
  rows.mapM fun row => do return (← SeriesRow.ofFields breakdowns (← fieldsOf row)).toFields

end MetricDesk.Cells
