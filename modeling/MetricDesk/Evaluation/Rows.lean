import MetricDesk.Evaluation.Report
import MetricDesk.Series.Cells

/-! Reports on results as a caller hands them in: each field is looked up when it is needed, and a
missing one is a failure. -/
namespace MetricDesk.Report

/-- A field that may say anything, and says yes unless it is empty. -/
def flag (key : String) (row : Value) : Except Failure Bool :=
  return !(← Cells.require row key).isEmpty

/-- Whether an entry asks for rejection. -/
def asks (entry : Value) : Except Failure Bool :=
  return Golden.asksRejection (← Cells.fieldsOf entry)

/-- The rows whose field says yes, out of all. -/
def share (key : String) (rows : List Value) : Except Failure Share :=
  return .of id (← rows.mapM (flag key))

def tally (rows entries : List Value) : Except Failure Tally := do
  let asked ← (rows.zip entries).mapM fun (row, entry) => return (row, ← asks entry)
  let planned := (asked.filter (!·.2)).map (·.1)
  let rejects := (asked.filter (·.2)).map (·.1)
  return {
    success := ← share "success" rows
    metric := ← share "metric_ok" planned
    breakdowns := ← share "breakdowns_ok" planned
    comparison := ← share "comparison_ok" planned
    window := ← share "window_ok" planned
    rejected := ← share "rejected" rejects }

/-- Mean, median and ninety-fifth percentile of latencies, all zero where there are none. -/
def latencyOf (rows : List Value) : Except Failure (List String) := do
  let sorted ← Sorting.ascending Value.lt (← rows.mapM (Cells.require · "latency_ms"))
  let count := sorted.length
  let place (n : Nat) : String := (sorted[n]?.getD (.nat 0)).text
  if count = 0 then return latency "0" "0" "0"
  match ← Value.div (← sorted.foldlM Value.add (.nat 0)) (.nat count) with
  | .num (.dbl mean) =>
    return latency (mean.fixed 0) (place (count / 2)) (place (Latency.highPlace count))
  | v => throw (.noNumber v.kind)

/-- The question of a row. Only texts can be cut short. -/
def questionOf (row : Value) : Except Failure String := do
  match ← Cells.require row "question" with
  | .str s => return s
  | .list _ => throw .textBehindList
  | .obj _ => throw (.unhashable "slice")
  | v => throw (.noFields v.kind)

def resultRow (row : Value) (number : Nat) : Except Failure String := do
  let question ← questionOf row
  if ← flag "rejected" row then return rejectedRow number question (← flag "success" row)
  let checks := Checks.mk (← flag "metric_ok" row) (← flag "breakdowns_ok" row)
    (← flag "comparison_ok" row) (← flag "window_ok" row)
  return plannedRow number question checks (← flag "success" row)

/-- The section of a row, if it failed. -/
def failureOf? (row : Value) (number : Nat) : Except Failure (Option (List String)) := do
  if ← flag "success" row then return none
  let fields ← Cells.fieldsOf row
  return some (failure number (← questionOf row) (Value.getD fields "error")
    (Value.getD fields "plan"))

/-- The report on rows, beside the entries that they are about. -/
def ofRows (now : Moment) (mode : String) (rows entries : List Value) :
    Except Failure String := do
  let counts ← tally rows entries
  let times ← latencyOf rows
  let numbered := rows.zipIdx 1
  let table ← numbered.mapM fun (row, number) => resultRow row number
  let sections ← numbered.filterMapM fun (row, number) => failureOf? row number
  return "\n".intercalate (header now rows.length mode ++ summary counts ++ times
    ++ results table ++ failures sections)

end MetricDesk.Report
