import MetricDesk.Calendar.Moment
import MetricDesk.Number.Basic

/-! Spans of time in microseconds, told in days, seconds and microseconds; only days are ever
negative. -/
namespace MetricDesk.Span

/-- Days, seconds and microseconds. -/
def parts (micros : Int) : Int × Nat × Nat :=
  let perDay : Int := 86400 * 1000000
  let rest := (Int.fmod micros perDay).toNat
  (Int.fdiv micros perDay, rest / 1000000, rest % 1000000)

def ofDays (n : Int) : Int := n * 86400 * 1000000

/-- A number of days that may have a part of a day; the part is rounded to whole microseconds. -/
def ofDoubleDays (x : Double) : Except ArithmeticFault Int := do
  let whole ← x.whole
  let part := (x.sub (.ofInt whole)).mul (.ofInt (ofDays 1))
  return ofDays whole + ((part.round 0).toInt?).getD 0

/-- `D days, H:MM:SS`, with microseconds if there are any and without days if there are none. -/
def text (micros : Int) : String :=
  let (days, seconds, rest) := parts micros
  let front := if days = 0 then ""
    else toString days ++ (if days.natAbs = 1 then " day, " else " days, ")
  front ++ toString (seconds / 3600) ++ String.ofList (':' :: Digits.padded 2 (seconds / 60 % 60)
    ++ ':' :: Digits.padded 2 (seconds % 60)
    ++ if rest = 0 then [] else '.' :: Digits.padded 6 rest)

/-- A span inside a list or an object; parts that are zero are left out. -/
def shown (micros : Int) : String :=
  let (days, seconds, rest) := parts micros
  let part (name : String) (n : Int) : List String :=
    if n = 0 then [] else [name ++ "=" ++ toString n]
  let named := part "days" days ++ part "seconds" seconds ++ part "microseconds" rest
  "datetime.timedelta(" ++ (if named.isEmpty then "0" else ", ".intercalate named) ++ ")"

end MetricDesk.Span
