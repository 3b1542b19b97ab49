import MetricDesk.Plan.Basic
import MetricDesk.Plan.Keyword
import MetricDesk.Plan.Phrase
import MetricDesk.Plan.Title
import MetricDesk.Text.Case

/-! The plan that a question's own words give, without a model. It is a draft: its window may be
too long, and its metric may not support its breakdowns. -/
namespace MetricDesk.Draft

/-- The characters in which keywords and phrases are looked for. -/
def wording (question : String) : List Char := Text.trimmed (Text.lower question).toList

/-- The first metric with a keyword in the question; revenue without one. -/
def metric (q : List Char) : Metric :=
  match Keyword.metrics.find? fun (_, keywords) => Keyword.anyStands q keywords with
  | some (m, _) => m
  | none => .revenue

def breakdowns (q : List Char) : List Breakdown :=
  Breakdown.all.filter fun b => Keyword.anyStands q (Keyword.breakdown b)

def granularity (q : List Char) : Granularity :=
  if Keyword.weekly.any fun k => Text.occurs k.toList q then .week else .day

def comparison (q : List Char) : Comparison :=
  if Keyword.anyStands q Keyword.comparison then .previousPeriod else .none

/-- Contributors are looked at only where there are groups. -/
def analysis (q : List Char) : List String :=
  if !(breakdowns q).isEmpty && Keyword.anyStands q Keyword.topContributors then
    ["trend", "top_contributors"]
  else ["trend"]

def mode (q : List Char) : ResponseMode :=
  if Keyword.anyStands q Keyword.deep then .deep else .short

/-- The draft of a question. It fails only for a number of days beyond computing. -/
def of (question : String) : Except Failure Plan := do
  let q := wording question
  return {
    game := Title.of question
    metric := metric q
    granularity := granularity q
    days := ← Phrase.days q
    breakdowns := breakdowns q
    comparison := comparison q
    analysis := analysis q
    filters := []
    mode := mode q }

end MetricDesk.Draft
