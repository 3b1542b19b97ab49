import MetricDesk.Number.Digits

/-! Days of the Gregorian calendar, carried back before its introduction, from the first day of
year 1 to the last of year 9999. A day is its number in this count, so that moving by days is
adding; year, month and day of the month are read off it. -/
namespace MetricDesk

/-- The number of days in the calendar. -/
def Date.count : Nat := 3652059

/-- A day by its number, from 1. -/
structure Date where
  ordinal : Nat
  first : 1 ≤ ordinal
  last : ordinal ≤ Date.count
  deriving DecidableEq

/-- Why a move in the calendar fails. -/
inductive CalendarFault where
  | outOfRange
  /-- More days than a span of time may have. -/
  | spanTooLong (days : Int)
  /-- More days than fit into thirty-two bits. -/
  | spanTooWide
  deriving DecidableEq, Repr

def CalendarFault.message : CalendarFault → String
  | .outOfRange => "date value out of range"
  | .spanTooLong days => s!"days={days}; must have magnitude <= 999999999"
  | .spanTooWide => "Python int too large to convert to C int"

namespace Date

/-- The day with a number, if the calendar has it. -/
def ofOrdinal? (n : Int) : Option Date :=
  if h : 1 ≤ n ∧ n ≤ count then
    some ⟨n.toNat, by omega, by omega⟩
  else none

/-- A span of whole days, within the limits that spans have. -/
def span (days : Int) : Except CalendarFault Int :=
  if days < -Int.pow 2 31 ∨ Int.pow 2 31 ≤ days then .error .spanTooWide
  else if days.natAbs ≤ 999999999 then .ok days
  else .error (.spanTooLong days)

/-- The day so many days later, or earlier for a negative span. -/
def shift (d : Date) (days : Int) : Except CalendarFault Date :=
  match ofOrdinal? (d.ordinal + days) with
  | some d => .ok d
  | none => .error .outOfRange

/-! ### Years and months -/

def isLeap (year : Nat) : Bool := year % 4 == 0 && (year % 100 != 0 || year % 400 == 0)

/-- Days in the years before a year. -/
def daysBeforeYear (year : Nat) : Nat :=
  let y := year - 1
  y * 365 + y / 4 - y / 100 + y / 400

def monthLength (year month : Nat) : Nat :=
  match month with
  | 2 => if isLeap year then 29 else 28
  | 4 | 6 | 9 | 11 => 30
  | _ => 31

/-- The month and day of the month of the `n`-th day of a year, counted from 0. -/
def monthOf (year : Nat) : List Nat → Nat → Nat × Nat
  | [], n => (12, n + 1)
  | m :: rest, n =>
    if n < monthLength year m then (m, n + 1) else monthOf year rest (n - monthLength year m)

/-- The year in which a day lies: the guess by the length of four hundred years is right or one
too great. -/
def year (d : Date) : Nat :=
  let n := d.ordinal - 1
  let guess := n * 400 / 146097 + 1
  if n < daysBeforeYear guess then guess - 1
  else if daysBeforeYear (guess + 1) ≤ n then guess + 1
  else guess

/-- Month and day of the month. -/
def monthDay (d : Date) : Nat × Nat :=
  monthOf d.year [1, 2, 3, 4, 5, 6, 7, 8, 9, 10, 11, 12] (d.ordinal - 1 - daysBeforeYear d.year)

/-- Days since Monday. -/
def weekday (d : Date) : Nat := (d.ordinal + 6) % 7

/-- The day of a year, month and day of the month, if there is one. -/
def ofCivil? (year month day : Nat) : Option Date :=
  if 1 ≤ year ∧ year ≤ 9999 ∧ 1 ≤ month ∧ month ≤ 12 ∧ 1 ≤ day ∧ day ≤ monthLength year month then
    let before := (List.range (month - 1)).foldl (fun n m => n + monthLength year (m + 1)) 0
    ofOrdinal? (daysBeforeYear year + before + day)
  else none

/-- `YYYY-MM-DD`. -/
def iso (d : Date) : String :=
  let (m, n) := d.monthDay
  String.ofList
    (Digits.padded 4 d.year ++ '-' :: Digits.padded 2 m ++ '-' :: Digits.padded 2 n)

end Date
end MetricDesk
