import MetricDesk.Analysis.Quantity
import MetricDesk.Plan.Vocabulary

/-! Rolling up values, and the change between two of them. -/
namespace MetricDesk

/-- The values added from the left. -/
def total [Quantity α] (values : List α) : Except Failure α :=
  values.foldlM Quantity.add (Quantity.ofNat 0)

/-- Sum or mean; nothing rolls up to zero. -/
def aggregate [Quantity α] (how : Rollup) (values : List α) : Except Failure α :=
  if values.isEmpty then .ok Quantity.zero
  else do
    let sum ← total values
    match how with
    | .sum => return sum
    | .mean => Quantity.div sum (Quantity.ofNat values.length)

/-- The change as a percentage with two decimal places, where there is something to compare to. -/
def percentChange [Quantity α] (change previous : α) : Except Failure (Option α) :=
  do
    if ← Quantity.isZero previous then return none
    let share ← Quantity.div change previous
    let percent ← Quantity.mul share (Quantity.ofNat 100)
    return some (← Quantity.round 2 percent)

end MetricDesk
