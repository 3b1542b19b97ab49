import MetricDesk.Failure
import MetricDesk.Series.Query
import MetricDesk.Warehouse.Table

/-! Statements that read a series. A statement is made of the table and of names out of the
vocabulary; tenant and days are parameters, bound beside its text. -/
namespace MetricDesk.Warehouse

/-- What is bound to a statement. -/
inductive Parameter where
  | tenant
  | start
  | stop
  deriving DecidableEq, Repr

namespace Parameter

def name : Parameter → String
  | .tenant => "tenant_id"
  | .start => "start_date"
  | .stop => "end_date"

def all : List Parameter := [.tenant, .start, .stop]

/-- The value that a query binds. -/
def value (q : Query) : Parameter → Value
  | .tenant => .str q.tenant
  | .start => .day q.window.start
  | .stop => .day q.window.stop

end Parameter

/-- A condition on one column. -/
inductive Condition where
  | compares (column operator : String) (p : Parameter)
  | isNumber (column : String) (n : Nat)
  deriving DecidableEq

/-- The parts of a statement. Rows are grouped and ordered by the same expressions. -/
structure Statement where
  /-- Expressions, each with the name under which it is read. -/
  columns : List (String × String)
  table : String
  conditions : List Condition
  groups : List String
  deriving DecidableEq

/-- A name in double quotes. -/
def identifier (name : String) : String := "\"" ++ name ++ "\""

def Condition.text : Condition → String
  | .compares column operator p => identifier column ++ " " ++ operator ++ " :" ++ p.name
  | .isNumber column n => identifier column ++ " = " ++ toString n

namespace Statement

def commas (parts : List String) : String := ", ".intercalate parts

def text (s : Statement) : String :=
  "SELECT " ++ commas (s.columns.map fun (e, name) => e ++ " AS " ++ identifier name)
    ++ "\nFROM " ++ identifier s.table
    ++ "\nWHERE " ++ "\n  AND ".intercalate (s.conditions.map Condition.text)
    ++ "\nGROUP BY " ++ commas s.groups
    ++ "\nORDER BY " ++ commas s.groups

/-- The unit to which days are cut. -/
def unit (granularity : String) : String :=
  if granularity = Granularity.week.name then Granularity.week.name else Granularity.day.name

/-- A day cut to its unit. -/
def bucket (granularity column : String) : String :=
  "date_trunc('" ++ unit granularity ++ "', " ++ identifier column ++ ")::date"

/-- Tenant, first and last day, and the age of the cohort. -/
def conditionsOf (t : Table) : List Condition :=
  [.compares "gameId" "=" .tenant, .compares t.day ">=" .start, .compares t.day "<=" .stop]
    ++ (t.age.map (.isNumber "dayIndex")).toList

/-- The statement for a table, by groups that it has. -/
def ofTable (t : Table) (granularity : String) (groups : List Breakdown) : Statement where
  columns := [(bucket granularity t.day, "date"), (t.value, "value")]
    ++ groups.map fun b => (identifier (column b), b.name)
  table := t.name
  conditions := conditionsOf t
  groups := bucket granularity t.day :: groups.map fun b => identifier (column b)

/-- A breakdown that a table has, by its name. -/
def groupOf (t : Table) (metric name : String) : Except Failure Breakdown :=
  match t.groups.find? (·.name == name) with
  | some b => .ok b
  | none => .error (.noColumn name t.name metric)

/-- The table of a metric, by its name. -/
def tableOf (metric : String) : Except Failure Table :=
  match (Metric.ofName? metric).bind table? with
  | some t => .ok t
  | none => .error (.noRollup metric)

/-- The statement for a query. It fails for a metric without rollups and for a breakdown that
the table does not have. -/
def ofQuery (q : Query) : Except Failure Statement := do
  let t ← tableOf q.metric
  let groups ← q.breakdowns.mapM (groupOf t q.metric)
  return ofTable t q.granularity groups

/-- What a query binds. -/
def arguments (q : Query) : Fields := Parameter.all.map fun p => (p.name, p.value q)

end Statement
end MetricDesk.Warehouse
