import MetricDesk.Plan.Vocabulary

/-! The tables of the warehouse: where the daily rollups of a metric are kept. Identifiers of a
statement come from here and never from a request. -/
namespace MetricDesk.Warehouse

structure Table where
  name : String
  /-- The column of the day. -/
  day : String
  /-- The expression that rolls a group of rows up into one value. -/
  value : String
  /-- The age of a cohort in days, where rows of several ages are kept. -/
  age : Option Nat
  groups : List Breakdown

/-- The column of a breakdown. -/
def column : Breakdown → String
  | .country => "countryCode"
  | .platform => "platform"

/-- A share of a cohort in percent, zero for an empty one. -/
def retentionShare : String :=
  "CASE WHEN SUM(\"cohortSize\") = 0 THEN 0 "
    ++ "ELSE (SUM(\"retainedUsers\")::double precision / NULLIF(SUM(\"cohortSize\"), 0)) * 100 END"

/-- Cohorts of an age, with a value of theirs. -/
def cohorts (value : String) (age : Nat) : Table where
  name := "cohort_retention_daily"
  day := "installDate"
  value := value
  age := some age
  groups := Breakdown.all

/-- Revenue has no groups. -/
def revenue : Table where
  name := "monetization_daily_rollups"
  day := "date"
  value := "SUM(\"totalRevenueUsd\")::double precision"
  age := none
  groups := []

def activeUsers : Table where
  name := "active_users_daily"
  day := "date"
  value := "SUM(\"dau\")::double precision"
  age := none
  groups := Breakdown.all

/-- The table of a metric, if it has rollups of its own. -/
def table? : Metric → Option Table
  | .revenue => some revenue
  | .dau => some activeUsers
  | .installs => some (cohorts "SUM(\"cohortSize\")::double precision" 0)
  | .d1Retention => some (cohorts retentionShare 1)
  | .d7Retention => some (cohorts retentionShare 7)
  | .arpdau => none

end MetricDesk.Warehouse
