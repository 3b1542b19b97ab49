import MetricDesk.Analysis.Table

/-! Attribution: which groups moved a metric. Each group of the current table is joined with the
same group of the previous one, and the groups are ranked by how far they moved. -/
namespace MetricDesk

structure AttributionRow (α : Type) where
  labels : Fields
  current : α
  previous : α
  delta : α

namespace AttributionRow

/-- The value of a group, the last one if the table has it several times. -/
def valueOf (breakdowns : List String) (table : List (TableRow α)) (key : List String) :
    Option α :=
  (table.reverse.find? fun row => groupKey breakdowns row.label == key).map (·.value)

/-- A group with its previous value, zero if it had none. -/
def ofRow [Quantity α] (breakdowns : List String) (previous : List (TableRow α))
    (row : TableRow α) : Except Failure (AttributionRow α) := do
  let before := (valueOf breakdowns previous (groupKey breakdowns row.label)).getD Quantity.zero
  return ⟨row.labels, row.value, before, ← Quantity.sub row.value before⟩

/-- The greatest move first, in either direction. -/
def ranked [Quantity α] (rows : List (AttributionRow α)) :
    Except Failure (List (AttributionRow α)) :=
  Quantity.descending (fun row => Quantity.abs row.delta) rows

/-- The attribution between two tables; without breakdowns there is none. -/
def ofTables [Quantity α] (breakdowns : List String) (current previous : List (TableRow α)) :
    Except Failure (List (AttributionRow α)) :=
  if breakdowns.isEmpty then .ok []
  else do ranked (← current.mapM (ofRow breakdowns previous))

/-- Labels, then both values and the move. -/
def toFields (cell : α → Value) (row : AttributionRow α) : Fields :=
  (((row.labels : Fields).put "current" (cell row.current)).put "previous"
    (cell row.previous)).put "delta" (cell row.delta)

end AttributionRow
end MetricDesk
