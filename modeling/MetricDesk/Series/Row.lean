import MetricDesk.Failure
import MetricDesk.Value.Text

/-! Rows of a series: the value of a day, and of a group of that day if the series is broken
down. Warehouse rows are brought into this form before anything is computed. -/
namespace MetricDesk

/-- Labels name the group by breakdown. -/
structure SeriesRow (α : Type) where
  day : String
  labels : Fields
  value : α

/-- A day as `YYYY-MM-DD`: the first ten characters of whatever else stands for it. -/
def dayText : Value → String
  | .moment m => m.day.iso
  | .day d => d.iso
  | v => String.ofList (v.text.toList.take 10)

/-- A cell as a double. Truth values count as one and zero, a text is read. -/
def Value.toDouble : Value → Except Failure Double
  | .num n => arithmetic n.toDouble
  | .bool b => .ok (.ofInt b.toNat)
  | .str s =>
    match Reading.double? s with
    | some x => .ok x
    | none => .error (.noDouble s)
  | .decimal x => arithmetic x.toDouble
  | v => .error (.noNumber v.kind)

/-- A measured value; what is empty or missing counts as zero. -/
def Value.measured (v : Value) : Except Failure Double :=
  if v.isEmpty then .ok .zero else v.toDouble

namespace SeriesRow

/-- The label of a breakdown, empty where there is none. -/
def label (row : SeriesRow α) (breakdown : String) : Value :=
  (Fields.get? row.labels breakdown).getD (.str "")

/-- A warehouse row. A missing label is empty, a breakdown named twice counts once. -/
def ofFields (breakdowns : List String) (row : Fields) : Except Failure (SeriesRow Double) := do
  let value ← (Value.getD row "value").measured
  let labelOf (b : String) : Value := match Value.getD row b with
    | .null => .str ""
    | v => v
  let labels := Fields.ofEntries (breakdowns.map fun b => (b, labelOf b))
  return ⟨dayText (Value.getD row "date"), labels, value⟩

/-- The fields of a row as fetched: day and value, then the labels. -/
def toFields (row : SeriesRow Double) : Fields :=
  row.labels.foldl (fun fields (k, v) => fields.put k v)
    [("date", .str row.day), ("value", .dbl row.value)]

/-- The fields of a composed row: the day, the labels, then the value. -/
def toComposed (cell : α → Value) (row : SeriesRow α) : Fields :=
  Fields.put (row.labels.foldl (fun fields (k, v) => fields.put k v) [("date", .str row.day)])
    "value" (cell row.value)

end SeriesRow
end MetricDesk
