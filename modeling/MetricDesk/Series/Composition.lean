import MetricDesk.Analysis.Quantity
import MetricDesk.Series.Row

/-! Series that no table holds and that are composed of two others: a total split over groups in
proportion to shares, and a quotient of two totals. -/
namespace MetricDesk.Series

/-- The value of a day, the last one if the day has several. -/
def valueOn (rows : List (SeriesRow α)) (day : String) : Option α :=
  (rows.reverse.find? (·.day == day)).map (·.value)

/-- Days ascend, rows of one day keep their order. -/
def byDay (rows : List (SeriesRow α)) : List (SeriesRow α) :=
  rows.mergeSort fun a b => !decide (b.day < a.day)

/-- An amount added to the sum of its day. -/
def addOn [Quantity α] (sums : List (String × α)) (row : SeriesRow α) :
    Except Failure (List (String × α)) :=
  match sums with
  | [] => do return [(row.day, ← Quantity.add Quantity.zero row.value)]
  | (day, sum) :: rest => do
    if day = row.day then return (day, ← Quantity.add sum row.value) :: rest
    else return (day, sum) :: (← addOn rest row)

/-- The sum of each day. -/
def daySums [Quantity α] (rows : List (SeriesRow α)) : Except Failure (List (String × α)) :=
  rows.foldlM addOn []

/-- The part of a total that a share of all shares has; zero where they add up to zero. -/
def portion [Quantity α] (total share all : α) : Except Failure α :=
  do
    if ← Quantity.isZero all then return Quantity.zero
    Quantity.div (← Quantity.mul total share) all

/-- The part of its day's total that a share row stands for; none on a day without a total. -/
def split? [Quantity α] (totals : List (SeriesRow α)) (sums : List (String × α))
    (row : SeriesRow α) : Except Failure (Option (SeriesRow α)) :=
  match valueOn totals row.day, sums.lookup row.day with
  | some total, some all => do
    return some { row with value := ← portion total row.value all }
  | _, _ => .ok none

/-- Each day's total split over the groups of its shares. A day that has no total or no share
is left out. -/
def apportion [Quantity α] (totals shares : List (SeriesRow α)) :
    Except Failure (List (SeriesRow α)) := do
  let sums ← daySums shares
  return byDay (← shares.filterMapM (split? totals sums))

/-- A quotient, zero over a zero divisor. -/
def ratio [Quantity α] (value divisor : α) : Except Failure α :=
  do
    if ← Quantity.isZero divisor then return Quantity.zero
    Quantity.div value divisor

/-- A row's value over the divisor of its day; none on a day without one. -/
def divide? [Quantity α] (divisors : List (SeriesRow α)) (row : SeriesRow α) :
    Except Failure (Option (SeriesRow α)) :=
  match valueOn divisors row.day with
  | some divisor => do return some { row with labels := [], value := ← ratio row.value divisor }
  | none => .ok none

/-- Each day's value over the divisor of that day. A day without divisor is left out. -/
def quotient [Quantity α] (values divisors : List (SeriesRow α)) :
    Except Failure (List (SeriesRow α)) := do
  return byDay (← values.filterMapM (divide? divisors))

end MetricDesk.Series
