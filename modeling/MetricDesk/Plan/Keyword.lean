import MetricDesk.Plan.Vocabulary
import MetricDesk.Text.Scan

/-! Keywords of questions. A keyword counts only as a whole: no small letter and no digit
touches it. Weekly wording is the exception and counts anywhere. -/
namespace MetricDesk.Keyword

/-- Characters that continue a keyword on either side. -/
def continues (c : Char) : Bool := ('a' ≤ c && c ≤ 'z') || c.isDigit

/-- The keyword stands at the front, as a whole. -/
def standsAt (keyword : List Char) (before : Option Char) (cs : List Char) : Option Unit :=
  if before.any continues then none
  else
    match Text.after? keyword cs with
    | some (c :: _) => if continues c then none else some ()
    | some [] => some ()
    | none => none

/-- The keyword stands somewhere in the question, as a whole. -/
def stands (q : List Char) (keyword : String) : Bool :=
  (Text.search (standsAt keyword.toList) none q).isSome

def anyStands (q : List Char) (keywords : List String) : Bool := keywords.any (stands q)

/-- The keywords of the metrics, the most specific metric first. -/
def metrics : List (Metric × List String) := [
  (.arpdau, ["arpdau", "revenue per daily active", "revenue per dau", "revenue per user", "arpu"]),
  (.d1Retention, ["d1 retention", "day 1 retention", "day-1 retention", "d1"]),
  (.d7Retention, ["d7 retention", "day 7 retention", "day-7 retention", "d7", "retention"]),
  (.installs, ["installs", "install", "downloads", "new users", "new players"]),
  (.dau, ["dau", "daily active", "active users", "active players", "players", "users"]),
  (.revenue, ["revenue", "sales", "money", "income", "earned", "iap", "purchases"])]

def breakdown : Breakdown → List String
  | .country => ["by country", "per country", "countries", "country", "by geo", "region"]
  | .platform => ["by platform", "per platform", "platforms", "platform", "ios", "android"]

def weekly : List String := ["weekly", "by week", "per week", "each week", "week over week"]

def comparison : List String := [
  "compare", "compared", "comparison", "vs", "versus", "previous period",
  "prior period", "change", "changed", "drop", "dropped", "increase",
  "decrease", "grew", "growth", "why"]

def deep : List String := ["why", "explain", "deep dive", "in detail", "breakdown of"]

def topContributors : List String :=
  ["why", "driver", "drivers", "contributor", "contributors", "top", "which"]

end MetricDesk.Keyword
