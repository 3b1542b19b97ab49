/-! Sets of characters as ascending closed ranges of code points. -/
namespace MetricDesk.Text

/-- Some range holds the code point. The ranges ascend, so the search stops at the first that
begins beyond it. -/
def covers : List (Nat × Nat) → Nat → Bool
  | [], _ => false
  | (lo, hi) :: rest, n => if n < lo then false else n ≤ hi || covers rest n

end MetricDesk.Text
