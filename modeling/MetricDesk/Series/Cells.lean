import MetricDesk.Series.Composition

/-! Splitting totals in rows as a caller hands them in: each field is looked up when it is needed,
a missing one is a failure, and days are told apart by their values. -/
namespace MetricDesk.Cells

/-- The fields of a row that is asked for some that may be missing. -/
def fieldsOf : Value → Except Failure Fields
  | .obj fields => .ok fields
  | v => .error (.noOperation v.kind "get")

/-- A field that has to be there. -/
def require (row : Value) (key : String) : Except Failure Value :=
  match row with
  | .obj fields =>
    match Fields.get? fields key with
    | some v => .ok v
    | none => .error (.missingKey key)
  | v => .error (.noFields v.kind)

/-- What a day has, the last one if it has several. -/
def lookUp (pairs : List (Value × α)) (day : Value) : Option α :=
  (pairs.reverse.find? fun (d, _) => d.same day).map (·.2)

/-- Day and value of a total; both have to be there before the day is looked up. -/
def totalOf (row : Value) : Except Failure (Value × Value) := do
  let day ← require row "date"
  let value ← require row "value"
  day.keyed
  return (day, value)

/-- Day and value of a share; its day is looked up before the value is needed. -/
def shareOf (row : Value) : Except Failure (Value × Value) := do
  let day ← require row "date"
  day.keyed
  return (day, ← require row "value")

/-- A sum in doubles with one more cell. -/
def plus (sum : Double) (cell : Value) : Except Failure Double :=
  match cell.number? with
  | some n => do return sum.add (← arithmetic n.toDouble)
  | none => .error (.operands "+=" "float" cell.kind)

/-- A share added to the sum of its day. -/
def addShare (sums : List (Value × Double)) (day share : Value) :
    Except Failure (List (Value × Double)) :=
  match sums with
  | [] => do return [(day, ← plus .zero share)]
  | (d, sum) :: rest => do
    if d.same day then return (d, ← plus sum share) :: rest
    else return (d, sum) :: (← addShare rest day share)

/-- How many items a text or a list may have. -/
def longest : Nat := Nat.pow 2 63 - 1

/-- How many of them there is room for at most. -/
def roomiest : Nat := Nat.pow 2 36

/-- A text or a list so many items long can be repeated as often as a cell says. Where the result
has more items than there may be, it is `fault`. -/
def repeatable (fault : Failure.Repetition) (length : Nat) (count : Value) :
    Except Failure Unit :=
  match count.number? with
  | some (.int n) =>
    if (longest : Int) < n ∨ n < -(longest + 1 : Nat) then .error (.repetition .countTooLarge)
    else if (longest : Int) < length * n then .error (.repetition fault)
    else if (roomiest : Int) < length * n then .error (.repetition .noRoom)
    else .ok ()
  | _ => .error (.notCount count.kind)

/-- The part of a total that a share of all shares has. A text or a list can be repeated by a
share, but not divided then. -/
def portion (total share : Value) (all : Double) : Except Failure Value := do
  if !all.isZero then
    match total with
    | .str s => repeatable .resultTooLong s.length share; throw (.operands "/" total.kind "float")
    | .list xs => repeatable .noRoom xs.length share; throw (.operands "/" total.kind "float")
    | _ => pure ()
  Series.portion total share (.dbl all)

/-- The row that a share makes, beside its day; none on a day without a total. -/
def split? (breakdowns : List String) (totals : List (Value × Value))
    (sums : List (Value × Double)) (row : Value) : Except Failure (Option (Value × Fields)) := do
  let (day, share) ← shareOf row
  match lookUp totals day, lookUp sums day with
  | some total, some all =>
    let labels ← breakdowns.mapM fun b => do return (b, ← require row b)
    let made := Fields.ofEntries (("date", day) :: labels)
    return some (day, made.put "value" (← portion total share all))
  | _, _ => return none

/-- Totals split over the groups of shares. Days ascend, as far as they have an order. -/
def apportion (breakdowns : List String) (totals shares : List Value) :
    Except Failure (List Fields) := do
  let totals ← totals.mapM totalOf
  let sums ← shares.foldlM (fun sums row => do
    let (day, share) ← shareOf row
    addShare sums day share) []
  let rows ← shares.filterMapM (split? breakdowns totals sums)
  return (← Sorting.ascending (fun a b => Value.lt a.1 b.1) rows).map (·.2)

end MetricDesk.Cells
