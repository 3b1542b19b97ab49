import MetricDesk.Narration.Leaves
import MetricDesk.Narration.Numeral
import MetricDesk.Result.Basic
import MetricDesk.Failure

/-! Grounding: a text is grounded in a value if each of its numerals, to two decimal places, is a
number of the value to two decimal places. A text without numerals is grounded in everything. -/
namespace MetricDesk.Grounding

/-- The finite numbers of a value, to two decimal places. -/
def allowed (v : Value) : Except Failure (List String) := do
  let leaves ← arithmetic (Leaves.of v)
  return (leaves.filter (·.isFinite)).map (·.cents)

/-- The numerals of a text that are not among the allowed, in order. -/
def unsupported (allowed : List String) (text : String) : List String :=
  ((Numeral.scan text.toList).filter fun n => !allowed.contains n.value.cents).map (·.text)

/-- A text that is grounded in a value. -/
def verify (v : Value) (text : String) : Except Failure String := do
  let missing := unsupported (← allowed v) text
  if missing.isEmpty then return text else throw (.ungrounded missing)

end MetricDesk.Grounding
