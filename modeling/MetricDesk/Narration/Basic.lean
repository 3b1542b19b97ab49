import MetricDesk.Model
import MetricDesk.Narration.Fallback
import MetricDesk.Narration.Grounding
import MetricDesk.Prompt
import MetricDesk.Trace

/-! Narration: a result told in words. A model may choose the words but not the numbers; a text
with numbers of its own is replaced by the fallback sentence. -/
namespace MetricDesk

structure Narration where
  text : String
  grounded : Bool
  /-- The numerals for which a text was replaced. -/
  unsupported : List String
  deriving DecidableEq

namespace Narration

/-- A text if it is grounded in the result, otherwise the fallback sentence. -/
def ofText (r : Result) (text : String) : Except Failure Narration := do
  let missing := Grounding.unsupported (← Grounding.allowed r.toValue) text
  if missing.isEmpty then return ⟨text, true, []⟩
  else return ⟨Fallback.sentence r, false, missing⟩

/-- The lines that are logged: one for a text that was replaced. -/
def warnings (n : Narration) (r : Result) (trace : String) : Except Failure (List String) :=
  if n.grounded then .ok []
  else do return [← Trace.line trace "Narration rejected | question=%s | unsupported=%s"
    [.str r.question, .list (n.unsupported.map .str)]]

end Narration

/-- Who narrates. Without a model the sentence is always the fallback. -/
structure Narrator (σ : Type) where
  mode : Mode
  model : Option (Model σ)
  /-- The lengths of short and of deep answers, in tokens. -/
  shortTokens : Value
  deepTokens : Value

namespace Narrator

def tokensFor (n : Narrator σ) (r : Result) : Value :=
  match r.plan.mode with
  | .deep => n.deepTokens
  | .short => n.shortTokens

/-- The text to be checked. A number of tokens that is not empty overrides the plan's. -/
def draft (n : Narrator σ) (r : Result) (maxTokens : Value) : Dialogue σ String :=
  match n.mode, n.model with
  | .model, some model =>
    model.text (Prompt.narration r) (if maxTokens.isEmpty then n.tokensFor r else maxTokens)
  | _, _ => return Fallback.sentence r

def narrate (n : Narrator σ) (r : Result) (maxTokens : Value) : Dialogue σ Narration := do
  let text ← n.draft r maxTokens
  liftM (Narration.ofText r text)

end Narrator
end MetricDesk
