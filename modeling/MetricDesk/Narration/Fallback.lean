import MetricDesk.Result.Basic
import MetricDesk.Value.Arithmetic

/-! The sentence that stands in for a narration: it is made of the summary alone. -/
namespace MetricDesk.Fallback

/-- A double without a fraction is written as a whole number, all others as short as reads back. -/
def amount (x : Double) : String :=
  if x.isWhole then toString (x.toInt?.getD 0) else x.text

/-- The same for any value. -/
def amountOf : Value → Except Failure String
  | .num (.dbl x) => .ok (amount x)
  | v => do return if ← v.isZero then "0" else v.shown

/-- A change has a sign, also where there is none. -/
def signed (change : Double) : String :=
  if Double.le .zero change then "+" ++ amount change else amount change

/-- What is said of the period before, if it was compared. -/
def comparison (s : Summary) : String :=
  match s.previous, s.change with
  | some _, some change =>
    " Compared to the previous period, change is " ++ signed change
      ++ (match s.changePercent with
        | some percent => " (" ++ amount percent ++ "%)."
        | none => ".")
  | _, _ => ""

def sentence (r : Result) : String :=
  "The " ++ r.plan.metric.name ++ " over the requested period is " ++ amount r.summary.value ++ "."
    ++ comparison r.summary
    ++ if r.attribution.isEmpty then " Attribution is inconclusive." else ""

end MetricDesk.Fallback
