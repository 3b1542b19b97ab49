import MetricDesk.Sorting.Merge

/-! Stable sorting by comparisons that may fail, and of items some of which are incomparable. Runs
are found from the left and merged as in a tree that is as balanced as it can be. Where the order is
total the result is the one that every stable sort has; elsewhere it hangs on which pairs are
compared, and so the steps are fixed here. -/
namespace MetricDesk.Sorting

variable {m : Type → Type} [Monad m] {α : Type}

/-- How many items go on behind `last` the way it goes: each less than the one before it, or none
of them. -/
def goingOn (lt : α → α → m Bool) (falls : Bool) (last : α) : List α → m Nat
  | [] => pure 0
  | x :: xs => do
    if (← lt x last) = falls then return (← goingOn lt falls x xs) + 1 else return 0

/-- The run at the front, turned round if it falls, and what follows it. -/
def frontRun (lt : α → α → m Bool) : List α → m (List α × List α)
  | x :: y :: rest => do
    let falls ← lt y x
    let n ← goingOn lt falls y rest
    let run := x :: y :: rest.take n
    return (if falls then run.reverse else run, rest.drop n)
  | xs => pure (xs, [])

/-- An item in its place in a run, behind all that it is not less than. -/
def insert (lt : α → α → m Bool) (run : List α) (x : α) : m (List α) := do
  let place ← halving .front (fun y => do return !(← lt x y)) run.toArray run.length 0 run.length
  return run.insertIdx place x

/-- The least length of a run: the length of all halved until it is below sixty-four, and one more
if that left a remainder. -/
def leastRun (length : Nat) : Nat :=
  let rec go : Nat → Nat → Nat → Nat
    | 0, n, rest => n + rest
    | fuel + 1, n, rest => if 64 ≤ n then go fuel (n / 2) (max rest (n % 2)) else n + rest
  go length length 0

/-- The run at the front, made up to the least length, and what follows it. -/
def nextRun (lt : α → α → m Bool) (least : Nat) (xs : List α) : m (List α × List α) := do
  let (run, rest) ← frontRun lt xs
  let missing := least - run.length
  return (← (rest.take missing).foldlM (insert lt) run, rest.drop missing)

/-- A run that waits to be merged. -/
structure Run (α : Type) where
  start : Nat
  items : List α
  /-- The depth, in the tree of merges, of the one with the next run. -/
  depth : Nat

/-- The depth of the merge of two neighbouring runs among `total` items: the first binary place in
which the middles of the two differ, as fractions of the whole. The middles are given doubled; the
fuel bounds the number of places. -/
def depthOf (total : Nat) : Nat → Nat → Nat → Nat
  | 0, _, _ => 1
  | fuel + 1, a, b =>
    if total ≤ a then depthOf total fuel (2 * (a - total)) (2 * (b - total)) + 1
    else if total ≤ b then 1
    else depthOf total fuel (2 * a) (2 * b) + 1

/-- Waiting runs, the latest first, and the patience of merges. -/
structure Waiting (α : Type) where
  runs : List (Run α)
  patience : Nat

/-- Two neighbouring runs as one that starts where the first does. -/
def mergePair (lt : α → α → m Bool) (patience : Nat) (a b : Run α) : m (Run α × Nat) := do
  let (items, patience) ← mergeRuns lt patience a.items b.items
  return ({ a with items := items }, patience)

/-- The latest two runs are merged as long as their merge is deeper than `depth`. The fuel bounds
the number of merges. -/
def settle (lt : α → α → m Bool) (depth : Nat) : Nat → Waiting α → m (Waiting α)
  | 0, w => pure w
  | fuel + 1, w =>
    match w.runs with
    | b :: a :: rest =>
      if depth < a.depth then do
        let (merged, patience) ← mergePair lt w.patience a b
        settle lt depth fuel ⟨merged :: rest, patience⟩
      else pure w
    | _ => pure w

/-- One more run waits. -/
def push (lt : α → α → m Bool) (total : Nat) (items : List α) (w : Waiting α) :
    m (Waiting α) := do
  match w.runs with
  | [] => return { w with runs := [⟨0, items, 0⟩] }
  | last :: _ =>
    let a := 2 * last.start + last.items.length
    let depth := depthOf total total a (a + last.items.length + items.length)
    let w ← settle lt depth w.runs.length w
    match w.runs with
    | last :: rest =>
      let start := last.start + last.items.length
      return { w with runs := ⟨start, items, 0⟩ :: { last with depth := depth } :: rest }
    | [] => return w

/-- All waiting runs as one. Of three the shorter outer one is merged with the middle one first.
The fuel bounds the number of merges. -/
def mergeAll (lt : α → α → m Bool) : Nat → Waiting α → m (List α)
  | 0, w => pure ((w.runs.reverse.map (·.items)).flatten)
  | fuel + 1, w =>
    match w.runs with
    | c :: b :: a :: rest => do
      if a.items.length < c.items.length then
        let (merged, patience) ← mergePair lt w.patience a b
        mergeAll lt fuel ⟨c :: merged :: rest, patience⟩
      else
        let (merged, patience) ← mergePair lt w.patience b c
        mergeAll lt fuel ⟨merged :: a :: rest, patience⟩
    | [b, a] => do return (← mergePair lt w.patience a b).1.items
    | [a] => pure a.items
    | [] => pure []

/-- Runs are found and wait until nothing is left. The fuel bounds their number. -/
def gather (lt : α → α → m Bool) (total : Nat) : Nat → List α → Waiting α → m (Waiting α)
  | 0, _, w => pure w
  | fuel + 1, xs, w => do
    let (run, rest) ← nextRun lt (leastRun total) xs
    let w ← push lt total run w
    if rest.isEmpty then return w else gather lt total fuel rest w

def ascending (lt : α → α → m Bool) (xs : List α) : m (List α) := do
  match xs with
  | [] => return []
  | _ => mergeAll lt xs.length (← gather lt xs.length xs.length xs ⟨[], Merging.streak⟩)

/-- Descending, equals in their order. -/
def descending (lt : α → α → m Bool) (xs : List α) : m (List α) := do
  return (← ascending lt xs.reverse).reverse

end MetricDesk.Sorting
