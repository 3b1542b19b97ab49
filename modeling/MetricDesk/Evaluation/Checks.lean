import MetricDesk.Evaluation.Golden
import MetricDesk.Plan.Basic

/-! Checks: which parts of a plan are what a golden question expects of them. -/
namespace MetricDesk

/-- Which parts of a plan are as expected. -/
structure Checks where
  metric : Bool
  breakdowns : Bool
  comparison : Bool
  window : Bool
  deriving DecidableEq, Repr

namespace Checks

def all (c : Checks) : Bool := c.metric && c.breakdowns && c.comparison && c.window

/-- Without a plan nothing is as expected. -/
def nothing : Checks := ⟨false, false, false, false⟩

end Checks

namespace Golden

/-- A number that counts, where truth counts as one. -/
def countOf? : Value → Option Number
  | .num n => some n
  | .bool b => some (.int b.toNat)
  | _ => none

/-- What can be counted is compared by what it counts. -/
def isCount (n : Nat) (v : Value) : Bool :=
  match countOf? v with
  | some m => Number.same (.int n) m
  | none => false

def isText (s : String) : Value → Bool
  | .str t => s == t
  | _ => false

/-- The members of an expected set: the items of a list, the keys of an object, the characters of
a text. Lists and objects cannot be members. -/
def members : Value → Except Failure (List Value)
  | .list items => items.mapM fun item => match item with
    | .list _ | .obj _ => .error (.unhashable item.kind)
    | v => .ok v
  | .obj fields => .ok ((Fields.keys fields).map .str)
  | .str s => .ok (s.toList.map fun c => .str (String.singleton c))
  | v => .error (.notIterable v.kind)

/-- The same set of names, in whatever order and however often. -/
def sameSet (names : List String) (expected : List Value) : Bool :=
  expected.all (fun v => names.any (isText · v)) && names.all fun s => expected.any (isText s)

/-- A plan against the expectations. -/
def check (g : Golden) (p : Plan) : Except Failure Checks := do
  let expected ← members g.breakdowns
  return {
    metric := isText p.metric.name g.metric
    breakdowns := sameSet p.groups expected
    comparison := isText p.comparison.name g.comparison
    window := g.days.all (isCount p.days) }

end Golden
end MetricDesk
