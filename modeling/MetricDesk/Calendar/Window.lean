import MetricDesk.Calendar.Date

/-! Windows of whole days, both ends included. -/
namespace MetricDesk

structure Window where
  start : Date
  stop : Date
  deriving DecidableEq

namespace Window

/-- The `n` days that end with `today`. -/
def lastDays (n : Int) (today : Date) : Except CalendarFault Window := do
  let span ← Date.span (n - 1)
  let start ← today.shift (-span)
  return ⟨start, today⟩

/-- The number of days, which is not positive where the ends are crossed. -/
def days (w : Window) : Int := w.stop.ordinal - w.start.ordinal + 1

/-- The window of equal length that ends the day before this one starts. -/
def preceding (w : Window) : Except CalendarFault Window := do
  let stop ← w.start.shift (-1)
  let start ← stop.shift (-(w.days - 1))
  return ⟨start, stop⟩

end Window
end MetricDesk
