import MetricDesk.Sorting.Search

/-! Merging two runs that stand side by side. Items go over one by one, and while one run wins time
and again they go over by the stride. What is already in its place at either end is left alone. -/
namespace MetricDesk.Sorting

variable {m : Type → Type} [Monad m] {α : Type}

/-- A merge under way. It goes from one end, at which the lists begin: the shorter run is kept
aside, the other one lies where the result is to be. -/
structure Merging (α : Type) where
  /-- What has gone over, the latest first. -/
  taken : List α
  kept : List α
  other : List α

namespace Merging

def takeKept (n : Nat) (s : Merging α) : Merging α :=
  { s with taken := (s.kept.take n).reverse ++ s.taken, kept := s.kept.drop n }

def takeOther (n : Nat) (s : Merging α) : Merging α :=
  { s with taken := (s.other.take n).reverse ++ s.taken, other := s.other.drop n }

/-- Nothing is left to compare: the last item kept aside goes behind all others. -/
def isOver (s : Merging α) : Bool := s.other.isEmpty || s.kept.length ≤ 1

def result (s : Merging α) : List α := s.taken.reverse ++ s.other ++ s.kept

/-- Wins in a row that make it worth going by the stride. -/
def streak : Nat := 7

/-- The direction of a merge: the end that it goes from, and whether an item of the other run goes
over before one that is kept. -/
structure Direction (m : Type → Type) (α : Type) where
  side : End
  wins : α → α → m Bool

/-- All that go over before the other run's first. -/
def strideKept (d : Direction m α) (s : Merging α) : m (Merging α × Nat) :=
  match s.isOver, s.other with
  | false, o :: _ => do
    let n ← leading d.side (fun k => do return !(← d.wins o k)) s.kept
    return (s.takeKept n, n)
  | _, _ => pure (s, 0)

/-- All that go over before the first that is kept. -/
def strideOther (d : Direction m α) (s : Merging α) : m (Merging α × Nat) :=
  match s.isOver, s.kept with
  | false, k :: _ => do
    let n ← leading d.side (fun o => d.wins o k) s.other
    return (s.takeOther n, n)
  | _, _ => pure (s, 0)

def oneKept (s : Merging α) : Merging α := if s.isOver then s else s.takeKept 1
def oneOther (s : Merging α) : Merging α := if s.isOver then s else s.takeOther 1

/-- A stride in each run, the earlier run's first, and whether either was long. -/
def strides (d : Direction m α) (s : Merging α) : m (Merging α × Bool) := do
  match d.side with
  | .front =>
    let (s, k) ← strideKept d s
    let (s, o) ← strideOther d s.oneOther
    return (s.oneKept, streak ≤ k || streak ≤ o)
  | .back =>
    let (s, o) ← strideOther d s
    let (s, k) ← strideKept d s.oneKept
    return (s.oneOther, streak ≤ k || streak ≤ o)

/-- How a merge goes: one by one, with the latest wins in a row of either run, or by strides. -/
inductive Pace where
  | single (kept other : Nat)
  | striding

/-- The merge to its end. The patience is the number of wins in a row before strides are tried: it
falls while they pay and rises when they are given up. The fuel bounds the number of steps. -/
def run (d : Direction m α) : Nat → Nat → Pace → Merging α → m (List α × Nat)
  | 0, patience, _, s => pure (s.result, patience)
  | fuel + 1, patience, pace, s =>
    if s.isOver then pure (s.result, patience)
    else match pace, s.other, s.kept with
    | .single inKept inOther, o :: _, k :: _ => do
      let otherWins ← d.wins o k
      let s := if otherWins then s.takeOther 1 else s.takeKept 1
      let (inKept, inOther) := if otherWins then (0, inOther + 1) else (inKept + 1, 0)
      if s.isOver then return (s.result, patience)
      else if patience ≤ max inKept inOther then run d fuel (patience + 1) .striding s
      else run d fuel patience (.single inKept inOther) s
    | .striding, _, _ => do
      let patience := if 1 < patience then patience - 1 else patience
      let (s, long) ← strides d s
      if s.isOver then return (s.result, patience)
      else if long then run d fuel patience .striding s
      else run d fuel (patience + 1) (.single 0 0) s
    | _, _, _ => pure (s.result, patience)

end Merging

/-- Two neighbouring runs as one, with the patience that is left. -/
def mergeRuns (lt : α → α → m Bool) (patience : Nat) (a b : List α) : m (List α × Nat) := do
  match b.head?, a.getLast? with
  | some first, some _ =>
    let n ← leading .front (fun x => do return !(← lt first x)) a
    let (before, a) := (a.take n, a.drop n)
    match a.getLast? with
    | none => return (before ++ b, patience)
    | some last =>
      let n ← leading .back (fun x => do return !(← lt x last)) b.reverse
      let (b, after) := (b.take (b.length - n), b.drop (b.length - n))
      if b.isEmpty then return (before ++ a ++ after, patience)
      let fuel := 2 * (a.length + b.length)
      if a.length ≤ b.length then
        let d : Merging.Direction m α := ⟨.front, lt⟩
        let (merged, patience) ←
          Merging.run d fuel patience (.single 0 0) (Merging.takeOther 1 ⟨[], a, b⟩)
        return (before ++ merged ++ after, patience)
      else
        let d : Merging.Direction m α := ⟨.back, fun o k => lt k o⟩
        let (merged, patience) ←
          Merging.run d fuel patience (.single 0 0) (Merging.takeOther 1 ⟨[], b.reverse, a.reverse⟩)
        return (before ++ merged.reverse ++ after, patience)
  | _, _ => return (a ++ b, patience)

end MetricDesk.Sorting
