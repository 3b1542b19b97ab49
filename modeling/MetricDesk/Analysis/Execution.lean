import MetricDesk.Analysis.Basic
import MetricDesk.Series.Resolution

/-! Executing a plan: its windows, the series it needs, all asked for at once, and the analysis
of them. -/
namespace MetricDesk.Execution

/-- The windows of a plan: the days up to today, and where it compares those before. -/
structure Windows where
  current : Window
  previous : Option Window

def windows (plan : Plan) (today : Date) : Except CalendarFault Windows := do
  let current ← Window.lastDays plan.days today
  let previous ← if plan.comparing then current.preceding.map some else .ok none
  return ⟨current, previous⟩

/-- The query for a window, by some breakdowns. -/
def query (plan : Plan) (tenant : String) (breakdowns : List String) (w : Window) : Query where
  tenant := tenant
  metric := plan.metric.name
  window := w
  granularity := plan.granularity.name
  breakdowns := breakdowns

/-- The recipes of a plan's four series; one that the plan does not ask for has none. -/
structure Recipes where
  current : Option Recipe
  groups : Option Recipe
  previous : Option Recipe
  previousGroups : Option Recipe

def recipeOf (q : Query) : Option Recipe := (Recipe.of q).toOption

def recipes (plan : Plan) (tenant : String) (w : Windows) : Recipes :=
  let whole := query plan tenant []
  let grouped := query plan tenant plan.groups
  let byGroup (w : Window) : Option Recipe :=
    if plan.breakdowns.isEmpty then none else recipeOf (grouped w)
  { current := recipeOf (whole w.current)
    groups := byGroup w.current
    previous := w.previous.bind fun v => recipeOf (whole v)
    previousGroups := w.previous.bind byGroup }

def Recipes.toList (r : Recipes) : List Recipe :=
  [r.current, r.groups, r.previous, r.previousGroups].filterMap id

/-- Every query that goes to the source. -/
def queries (plan : Plan) (tenant : String) (w : Windows) : List Query :=
  (recipes plan tenant w).toList.flatMap Recipe.needs

/-- The queries that go to the source before any other is waited for. -/
def firstQueries (plan : Plan) (tenant : String) (w : Windows) : List Query :=
  ((recipes plan tenant w).toList.filter (·.isNative)).flatMap Recipe.needs

/-- The queries of a plan as of a day; without its windows there are none. -/
def queriesOn (plan : Plan) (tenant : String) (today : Date) : List Query :=
  match windows plan today with
  | .ok w => queries plan tenant w
  | .error _ => []

/-- The series of a recipe; none is empty. -/
def series (source : Source) : Option Recipe → Outcome (List (SeriesRow Double))
  | some r => r.resolve source
  | none => .done []

/-- All series at once. Those of their own are known before the composed ones, so of several
failures the first among them decides. -/
def fetch (source : Source) (r : Recipes) : Outcome (PlanSeries Double) :=
  let early := (r.toList.filter (·.isNative)).map (Recipe.resolve source)
  let late := (r.toList.filter (!·.isNative)).map (Recipe.resolve source)
  match Outcome.all (early ++ late) with
  | .failed failure => .failed failure
  | _ =>
    match series source r.current, series source r.groups, series source r.previous,
      series source r.previousGroups with
    | .done current, .done groups, .done previous, .done previousGroups =>
      .done ⟨current, groups, previous, previousGroups⟩
    | _, _, _, _ => .pending

/-- The result of a plan for a tenant, as of a day. -/
def execute (source : Source) (question tenant : String) (plan : Plan) (today : Date) :
    Outcome Result :=
  match windows plan today with
  | .error fault => .failed (.calendar fault)
  | .ok w =>
    (fetch source (recipes plan tenant w)).andThen fun s => do
      return (← Analysis.ofSeries plan s).toResult question tenant plan

end MetricDesk.Execution
