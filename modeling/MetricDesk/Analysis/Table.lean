import MetricDesk.Analysis.Aggregate
import MetricDesk.Series.Row

/-! The breakdown table: rows of a series grouped by the texts of their labels, each group rolled
up, the greatest first. Groups of equal value stand in the order of their first rows. -/
namespace MetricDesk

/-- One group of the table. -/
structure TableRow (α : Type) where
  labels : Fields
  value : α

/-- The values of a group, with the labels of its first row. -/
structure Bucket (α : Type) where
  key : List String
  labels : Fields
  values : List α

/-- The texts of a row's labels, which tell its group. -/
def groupKey (breakdowns : List String) (label : String → Value) : List String :=
  breakdowns.map fun b => (label b).text

namespace Bucket

/-- A value put into the bucket of its key, or into a new one at the end. -/
def add (key : List String) (labels : Fields) (value : α) : List (Bucket α) → List (Bucket α)
  | [] => [⟨key, labels, [value]⟩]
  | b :: rest =>
    if b.key = key then { b with values := b.values ++ [value] } :: rest
    else b :: add key labels value rest

/-- The rows of a series by their groups, in the order of first appearance. -/
def ofRows (breakdowns : List String) (rows : List (SeriesRow α)) : List (Bucket α) :=
  rows.foldl (fun buckets row =>
    let labels := Fields.ofEntries (breakdowns.map fun b => (b, row.label b))
    add (groupKey breakdowns row.label) labels row.value buckets) []

end Bucket

namespace TableRow

/-- The label of a breakdown, empty where there is none. -/
def label (row : TableRow α) (breakdown : String) : Value :=
  (Fields.get? row.labels breakdown).getD (.str "")

/-- The greatest value first. -/
def ranked [Quantity α] (rows : List (TableRow α)) : Except Failure (List (TableRow α)) :=
  Quantity.descending (·.value) rows

/-- The table of a series; without breakdowns there is none. -/
def ofSeries [Quantity α] (how : Rollup) (breakdowns : List String)
    (rows : List (SeriesRow α)) : Except Failure (List (TableRow α)) :=
  if breakdowns.isEmpty then .ok []
  else do
    let rows ← (Bucket.ofRows breakdowns rows).mapM fun b => do
      return TableRow.mk b.labels (← aggregate how b.values)
    ranked rows

/-- Labels, then the value. -/
def toFields (cell : α → Value) (row : TableRow α) : Fields :=
  Fields.put row.labels "value" (cell row.value)

end TableRow
end MetricDesk
