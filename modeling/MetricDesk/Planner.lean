import MetricDesk.Model
import MetricDesk.Plan.Draft
import MetricDesk.Plan.Reply
import MetricDesk.Plan.Validation
import MetricDesk.Prompt

/-! Planning: a question becomes a checked plan, by the built-in rules or by a model's reply.
Nothing is mended and nothing is asked twice. -/
namespace MetricDesk

structure Planner (σ : Type) where
  mode : Mode
  model : Option (Model σ)
  maxTokens : Value

namespace Planner

/-- The candidate for a question asked on a day. -/
def candidate (p : Planner σ) (question day : String) : Dialogue σ Value :=
  match p.mode, p.model with
  | .rules, _ => return (← liftM (Draft.of question)).toValue
  | .model, none => throw (.disabled .client)
  | .model, some model => do
    let reply ← model.json (Prompt.planner question day) p.maxTokens
    liftM (Reply.value reply)

def plan (p : Planner σ) (question day : String) : Dialogue σ Plan := do
  let candidate ← p.candidate question day
  liftM (Plan.validate candidate)

end Planner
end MetricDesk
