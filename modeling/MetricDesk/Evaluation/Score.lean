import MetricDesk.Evaluation.Checks
import MetricDesk.Planner

/-! Scores: how the plan of a golden question compares with what is expected of it. A question that
the service itself fails to plan is scored as rejected; any other failure ends the evaluation. -/
namespace MetricDesk

/-- A question that is rejected has the words of the failure, any other its plan. -/
structure Score where
  question : String
  error : Option String
  checks : Checks
  rejected : Bool
  /-- Whether the question counts as a success; a rejected one is marked by what the golden file
  says about rejection, as it stands there. -/
  success : Value
  plan : Option Value

namespace Score

def passed (s : Score) : Bool := !s.success.isEmpty

/-- A plan is a success if it is as expected, and was not to be rejected. -/
def ofPlan (g : Golden) (p : Plan) : Except Failure Score := do
  let found ← g.check p
  return {
    question := g.question
    error := none
    checks := found
    rejected := false
    success := .bool (g.rejection.isEmpty && found.all)
    plan := some p.toValue }

/-- The words for a failure: a rejected plan speaks for itself, others are named. -/
def words (f : Failure) : String :=
  match f.kind with
  | .schemaValidation | .planParse => f.message
  | kind => kind.name ++ ": " ++ f.message

def ofFailure (g : Golden) (f : Failure) : Score where
  question := g.question
  error := some (words f)
  checks := .nothing
  rejected := true
  success := g.rejection
  plan := none

/-- How planning ended, as a score. -/
def ofPlanning (g : Golden) : Except Failure Plan → Except Failure Score
  | .ok p => ofPlan g p
  | .error f => if f.kind.isOwn then .ok (ofFailure g f) else .error f

/-- The fields of a score; a rejected question has no plan. -/
def toFields (s : Score) : Fields := [
  ("question", .str s.question),
  ("error", (s.error.map .str).getD .null),
  ("metric_ok", .bool s.checks.metric),
  ("breakdowns_ok", .bool s.checks.breakdowns),
  ("comparison_ok", .bool s.checks.comparison),
  ("window_ok", .bool s.checks.window),
  ("rejected", .bool s.rejected),
  ("success", s.success)]
    ++ (s.plan.map fun p => ("plan", p)).toList

end Score

/-! ### Evaluating a planner -/

namespace Planner

/-- What is first done to a question. -/
def firstOperation (p : Planner σ) : String :=
  match p.mode with
  | .rules => "lower"
  | .model => "replace"

/-- The score of one entry of a golden file, its question asked on a day. -/
def score (p : Planner σ) (day : String) (entry : Value) : Dialogue σ Score := do
  let g ← liftM (Golden.ofEntry p.firstOperation entry)
  fun s =>
    let (planned, s) := p.plan g.question day s
    (Score.ofPlanning g planned, s)

/-- The scores of all entries, one question after another. -/
def evaluate (p : Planner σ) (day : String) (entries : List Value) : Dialogue σ (List Score) :=
  entries.mapM (p.score day)

end Planner
end MetricDesk
