/-! The closed vocabulary of plans: what can be asked for, how it is grouped and compared, and
how buckets of a metric roll up. -/
namespace MetricDesk

/-- How the values of buckets combine: volumes are summed, ratios averaged. -/
inductive Rollup where
  | sum
  | mean
  deriving DecidableEq, Repr

def Rollup.name : Rollup → String
  | .sum => "sum"
  | .mean => "mean"

inductive Breakdown where
  | country
  | platform
  deriving DecidableEq, Repr

namespace Breakdown

def name : Breakdown → String
  | .country => "country"
  | .platform => "platform"

def all : List Breakdown := [.country, .platform]

def ofName? (s : String) : Option Breakdown := all.find? (·.name == s)

end Breakdown

inductive Metric where
  | revenue
  | dau
  | installs
  | d1Retention
  | d7Retention
  | arpdau
  deriving DecidableEq, Repr

namespace Metric

def name : Metric → String
  | .revenue => "revenue"
  | .dau => "dau"
  | .installs => "installs"
  | .d1Retention => "d1_retention"
  | .d7Retention => "d7_retention"
  | .arpdau => "arpdau"

def all : List Metric := [.revenue, .dau, .installs, .d1Retention, .d7Retention, .arpdau]

def ofName? (s : String) : Option Metric := all.find? (·.name == s)

def rollup : Metric → Rollup
  | .revenue | .dau | .installs => .sum
  | .d1Retention | .d7Retention | .arpdau => .mean

/-- Revenue per user has no groups: it is composed from two totals. -/
def breakdowns : Metric → List Breakdown
  | .arpdau => []
  | _ => [.country, .platform]

def description : Metric → String
  | .revenue => "Gross revenue in USD"
  | .dau => "Daily active users"
  | .installs => "New installs (day-0 cohort size)"
  | .d1Retention => "Share of an install cohort active on day 1 (%)"
  | .d7Retention => "Share of an install cohort active on day 7 (%)"
  | .arpdau => "Average revenue per daily active user"

end Metric

/-- A metric outside the vocabulary is summed. -/
def Rollup.ofMetricName (s : String) : Rollup :=
  match Metric.ofName? s with
  | some m => m.rollup
  | none => .sum

inductive Granularity where
  | day
  | week
  deriving DecidableEq, Repr

namespace Granularity

def name : Granularity → String
  | .day => "day"
  | .week => "week"

def all : List Granularity := [.day, .week]
def ofName? (s : String) : Option Granularity := all.find? (·.name == s)

end Granularity

inductive Comparison where
  | none
  | previousPeriod
  deriving DecidableEq, Repr

namespace Comparison

def name : Comparison → String
  | .none => "none"
  | .previousPeriod => "previous_period"

def all : List Comparison := [.none, .previousPeriod]
def ofName? (s : String) : Option Comparison := all.find? (·.name == s)

end Comparison

/-- How long an answer may be. -/
inductive ResponseMode where
  | short
  | deep
  deriving DecidableEq, Repr

namespace ResponseMode

def name : ResponseMode → String
  | .short => "short"
  | .deep => "deep"

def all : List ResponseMode := [.short, .deep]
def ofName? (s : String) : Option ResponseMode := all.find? (·.name == s)

end ResponseMode

inductive Confidence where
  | high
  | medium
  | low
  deriving DecidableEq, Repr

namespace Confidence

def name : Confidence → String
  | .high => "high"
  | .medium => "medium"
  | .low => "low"

def all : List Confidence := [.high, .medium, .low]
def ofName? (s : String) : Option Confidence := all.find? (·.name == s)

/-- The score that stands for it, in tenths. -/
def tenths : Confidence → Nat
  | .high => 9
  | .medium => 6
  | .low => 3

end Confidence

/-- The one kind of time range. -/
def timeRangeType : String := "last_n_days"

/-- The analyses that a plan is meant to name. -/
def analysisNames : List String := ["trend", "top_contributors"]

/-- The longest window; a comparison doubles it. -/
def maxWindowDays : Nat := 3650

end MetricDesk
