import MetricDesk.Failure
import MetricDesk.Text.Case
import MetricDesk.Value.Basic

/-! Language models as their callers see them: something that is asked, answers or fails, and
goes on in a state of its own. -/
namespace MetricDesk

/-- Work that may fail and leaves behind whatever state it has come to. -/
abbrev Dialogue (σ α : Type) := ExceptT Failure (StateM σ) α

/-- A model is asked by a prompt, and told how many tokens an answer may have. What it is told goes
on to it as it stands. -/
structure Model (σ : Type) where
  /-- The name of who provides it. -/
  provider : String
  /-- Whether asking it can succeed at all. -/
  enabled : Bool
  /-- An answer that is meant to be JSON. -/
  json (prompt : String) (maxTokens : Value) : Dialogue σ String
  /-- An answer in words. -/
  text (prompt : String) (maxTokens : Value) : Dialogue σ String

/-- Who does the work: the built-in rules, or a model. -/
inductive Mode where
  | rules
  | model
  deriving DecidableEq, Repr

namespace Mode

/-- The name that stands for the built-in rules, in any case. -/
def rulesName : String := "mock"

/-- The mode of a provider's name. -/
def ofName (name : String) : Mode := if Text.lower name = rulesName then .rules else .model

/-- The mode of a name that may be left out; the built-in rules then do the work. -/
def ofChoice (name : String) : Mode := if name.isEmpty then .rules else ofName name

end Mode
end MetricDesk
