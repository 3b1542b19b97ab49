/-! Searching a run from its front for the end of the items that pass a test. Where those that pass
stand in front of all others the answer is their number. A test may fail. -/
namespace MetricDesk.Sorting

variable {m : Type → Type} [Monad m] {α : Type}

/-- From which end a run is searched. The middle of an even stretch is its later item as the run
is written down, so the two ends see it differently. -/
inductive End where
  | front
  | back
  deriving DecidableEq, Repr

/-- The middle of the places from `low` up to below `high`, counted from the end searched from. -/
def End.middle (side : End) (low high : Nat) : Nat :=
  match side with
  | .front => low + (high - low) / 2
  | .back => high - 1 - (high - low) / 2

/-- The end of those that pass, by halving. The fuel bounds the number of halvings. -/
def halving (side : End) (test : α → m Bool) (xs : Array α) : Nat → Nat → Nat → m Nat
  | 0, low, _ => pure low
  | fuel + 1, low, high =>
    if low < high then
      let middle := side.middle low high
      match xs[middle]? with
      | some x => do
        if ← test x then halving side test xs fuel (middle + 1) high
        else halving side test xs fuel low middle
      | none => pure low
    else pure low

/-- A place that passes and the next one known not to, by strides that double. The fuel bounds the
number of strides. -/
def striding (test : α → m Bool) (xs : Array α) : Nat → Nat → Nat → m (Nat × Nat)
  | 0, last, next => pure (last, min next xs.size)
  | fuel + 1, last, next =>
    match xs[next]? with
    | some x => do
      if ← test x then striding test xs fuel next (2 * next + 1) else pure (last, next)
    | none => pure (last, xs.size)

/-- How many items at the front pass: strides first, then halving between the last two of them. -/
def leading (side : End) (test : α → m Bool) (xs : List α) : m Nat :=
  match xs with
  | [] => pure 0
  | x :: _ => do
    if ← test x then
      let all := xs.toArray
      let (last, next) ← striding test all all.size 0 1
      halving side test all all.size (last + 1) next
    else pure 0

end MetricDesk.Sorting
