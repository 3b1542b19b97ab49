import MetricDesk.Proofs.Analysis.Consistency
import MetricDesk.Proofs.Plan.Validity
import MetricDesk.Warehouse.Statement

/-! What the warehouse is asked for. Main statement: `supplied_of_validate`, a valid plan asks for
its tenant and its windows only, and only for what there is a statement for, so that no refusal of
the warehouse can show in what becomes of it. -/
namespace MetricDesk

namespace Warehouse.Statement

/-- There is a statement for a metric with a table, by groups that the table has. -/
theorem succeeds_ofQuery {q : Query} {m : Metric} {t : Table}
    (metric : Metric.ofName? q.metric = some m) (table : table? m = some t)
    (groups : ∀ name ∈ q.breakdowns, ∃ b ∈ t.groups, b.name = name) : Succeeds (ofQuery q) := by
  have found : tableOf q.metric = .ok t := by
    rw [tableOf, metric, Option.bind_some, table]
  have each : ∀ name ∈ q.breakdowns, Succeeds (groupOf t q.metric name) := by
    intro name mem
    obtain ⟨b, listed, rfl⟩ := groups name mem
    have there : (t.groups.find? (·.name == b.name)).isSome = true :=
      List.find?_isSome.mpr ⟨b, listed, beq_self_eq_true b.name⟩
    obtain ⟨c, found⟩ := Option.isSome_iff_exists.mp there
    exact ⟨c, by rw [groupOf, found]⟩
  unfold ofQuery
  rw [found]
  exact (Succeeds.mapM each).bind fun groups _ => .ok _

/-- There is a statement for the total of every metric with a table. -/
theorem succeeds_total {q : Query} {m : Metric} {t : Table}
    (metric : Metric.ofName? q.metric = some m) (table : table? m = some t)
    (total : q.breakdowns = []) : Succeeds (ofQuery q) := by
  apply succeeds_ofQuery metric table
  rw [total]
  rintro name ⟨⟩

end Warehouse.Statement

namespace Recipe
open Warehouse

theorem exists_of_metric {q : Query} {m : Metric} (metric : Metric.ofName? q.metric = some m) :
    ∃ r, Recipe.of q = .ok r ∧ r.needs ≠ [] := by
  unfold Recipe.of
  rw [metric]
  cases m with
  | arpdau => exact ⟨_, rfl, by rintro ⟨⟩⟩
  | revenue =>
    cases q.breakdowns with
    | nil => exact ⟨_, rfl, by rintro ⟨⟩⟩
    | cons b bs => exact ⟨_, rfl, by rintro ⟨⟩⟩
  | _ => exact ⟨_, rfl, by rintro ⟨⟩⟩

/-- There is a statement for whatever a recipe needs. Revenue by group, which no table has, and
revenue per user are not asked for as such. -/
theorem served_of_needs {q need : Query} {r : Recipe} (made : Recipe.of q = .ok r)
    (known : ∀ name ∈ q.breakdowns, ∃ b ∈ Breakdown.all, b.name = name) (h : need ∈ r.needs) :
    Succeeds (Statement.ofQuery need) := by
  unfold Recipe.of at made
  cases metric : Metric.ofName? q.metric with
  | none => rw [metric] at made; cases made
  | some m =>
    rw [metric] at made
    have revenue : Metric.ofName? Metric.revenue.name = some .revenue := rfl
    have dau : Metric.ofName? Metric.dau.name = some .dau := rfl
    cases m with
    | arpdau =>
      cases made
      rcases List.mem_pair.mp h with rfl | rfl
      · exact Statement.succeeds_total revenue rfl rfl
      · exact Statement.succeeds_total dau rfl rfl
    | revenue =>
      cases none : q.breakdowns.isEmpty with
      | true =>
        simp only [none, if_true] at made
        cases made
        obtain rfl := List.mem_singleton.mp h
        exact Statement.succeeds_total metric rfl (List.isEmpty_iff.mp none)
      | false =>
        simp only [none] at made
        cases made
        rcases List.mem_pair.mp h with rfl | rfl
        · exact Statement.succeeds_total metric rfl rfl
        · exact Statement.succeeds_ofQuery dau rfl known
    | _ =>
      cases made
      obtain rfl := List.mem_singleton.mp h
      exact Statement.succeeds_ofQuery metric rfl known

end Recipe

theorem Plan.mem_groups {plan : Plan} {name : String} (h : name ∈ plan.groups) :
    ∃ b ∈ Breakdown.all, b.name = name := by
  obtain ⟨b, -, rfl⟩ := List.mem_map.mp h
  exact ⟨b, by cases b <;> decide, rfl⟩

namespace Execution
open Warehouse

variable {plan : Plan} {tenant : String} {today : Date}

/-- A query that a plan may put to the warehouse: for the tenant, over the plan's own days or,
where it compares, over those just before, and the warehouse has a statement for it. -/
structure Supplied (plan : Plan) (tenant : String) (today : Date) (q : Query) : Prop where
  tenant : q.tenant = tenant
  granularity : q.granularity = plan.granularity.name
  window : q.window.IsLast plan.days today ∨
    plan.comparing = true ∧ ∃ w : Window, w.IsLast plan.days today ∧ q.window.IsBefore plan.days w
  served : ∃ s, Statement.ofQuery q = .ok s

theorem supplied_of_queriesOn {q : Query} (h : q ∈ queriesOn plan tenant today) :
    Supplied plan tenant today q := by
  unfold queriesOn at h
  split at h
  · next w found =>
    obtain ⟨a, listed, needed⟩ := List.mem_flatMap.mp h
    have within := of_mem_needs listed needed
    obtain ⟨last, before⟩ := of_windows found
    obtain ⟨v, -, groups, some, made⟩ := mem_recipes listed
    refine ⟨within.tenant, within.granularity, ?_, ?_⟩
    · rcases within.window with current | previous
      · rw [← current]
        exact Or.inl last
      · obtain ⟨comparing, before⟩ := before _ previous
        exact Or.inr ⟨comparing, w.current, last, before⟩
    · refine Recipe.served_of_needs made ?_ needed
      rcases some with rfl | rfl
      · rintro name ⟨⟩
      · exact fun name mem => Plan.mem_groups mem
  · cases h

/-- The total of each of a plan's windows is asked for. -/
theorem exists_mem_queries (plan : Plan) (tenant : String) {w : Windows} {v : Window}
    (h : w.current = v ∨ w.previous = some v) :
    ∃ q ∈ queries plan tenant w, q.window = v := by
  obtain ⟨r, made, nonempty⟩ :=
    Recipe.exists_of_metric (q := query plan tenant [] v) (Metric.ofName?_name plan.metric)
  obtain ⟨q, needed⟩ := List.exists_mem_of_ne_nil _ nonempty
  have recipe : recipeOf (query plan tenant [] v) = some r := by rw [recipeOf, made]; rfl
  have listed : r ∈ (recipes plan tenant w).toList := by
    rcases h with rfl | previous
    · simp [Recipes.toList, recipes, recipe]
    · simp [Recipes.toList, recipes, recipe, previous]
  refine ⟨q, List.mem_flatMap.mpr ⟨r, listed, needed⟩, ?_⟩
  obtain ⟨metric, breakdowns, -, rfl⟩ := Recipe.of_needs made needed
  rfl

/-- A valid plan asks the warehouse for its tenant and its windows only, for each of them as long
as they are in the calendar, and only for what there is a statement for. So what becomes of it does
not hang on what the warehouse says to any other query. -/
theorem supplied_of_validate {candidate : Value} {plan : Plan}
    (validated : Plan.validate candidate = .ok plan) (tenant : String) (today : Date) :
    (∀ q ∈ queriesOn plan tenant today, Supplied plan tenant today q) ∧
      (2 * plan.days ≤ today.ordinal → ∃ w : Window, w.IsLast plan.days today ∧
        (∃ q ∈ queriesOn plan tenant today, q.window = w) ∧
        (plan.comparing = true →
          ∃ q ∈ queriesOn plan tenant today, q.window.IsBefore plan.days w)) ∧
      ∀ source other : Source,
        (∀ q, (∃ s, Statement.ofQuery q = .ok s) → source q = other q) → ∀ question,
          execute source question tenant plan today = execute other question tenant plan today := by
  refine ⟨fun q => supplied_of_queriesOn, ?_, ?_⟩
  · intro room
    have positive := (Plan.valid_of_validate validated).positive
    obtain ⟨w, found, both⟩ := exists_windows positive room
    obtain ⟨last, before⟩ := of_windows found
    have asked : queriesOn plan tenant today = queries plan tenant w := by rw [queriesOn, found]
    rw [asked]
    refine ⟨w.current, last, exists_mem_queries plan tenant (Or.inl rfl), ?_⟩
    intro comparing
    obtain ⟨v, previous⟩ := Option.isSome_iff_exists.mp (both comparing)
    obtain ⟨q, mem, rfl⟩ := exists_mem_queries plan tenant (Or.inr previous)
    exact ⟨q, mem, (before _ previous).2⟩
  · intro source other agree question
    exact execute_congr fun q mem => agree q (supplied_of_queriesOn mem).served

/-- Weekly revenue by country, by platform and by country once more, against the weeks before. -/
def revenueByGroups : Plan :=
  ⟨"all", .revenue, .week, 28, [.country, .platform, .country], .previousPeriod, [], [], .short⟩

/-- Nothing was measured, and what there is no statement for is refused. -/
def refusing : Source := fun q =>
  match Statement.ofQuery q with
  | .ok _ => .rows []
  | .error failure => .fails failure

/-- Revenue is asked for as a whole and users by group, twice; no refusal shows. -/
theorem revenueByGroups_supplied :
    Plan.validate revenueByGroups.toValue = .ok revenueByGroups ∧
      2 * revenueByGroups.days ≤ lastOfFebruary.ordinal ∧
      (queriesOn revenueByGroups "game-1" lastOfFebruary).map (fun q => (q.metric, q.breakdowns)) =
        [("revenue", []), ("revenue", []), ("dau", ["country", "platform", "country"]),
          ("revenue", []), ("revenue", []), ("dau", ["country", "platform", "country"])] ∧
      (∀ q ∈ queriesOn revenueByGroups "game-1" lastOfFebruary,
        Supplied revenueByGroups "game-1" lastOfFebruary q) ∧
      (∃ q ∈ queriesOn revenueByGroups "game-1" lastOfFebruary, ∃ w : Window,
        w.IsLast 28 lastOfFebruary ∧ q.window.IsBefore 28 w) ∧
      execute refusing "revenue" "game-1" revenueByGroups lastOfFebruary =
        execute (fun _ => .rows []) "revenue" "game-1" revenueByGroups lastOfFebruary := by
  have validated : Plan.validate revenueByGroups.toValue = .ok revenueByGroups := by rfl
  have room : 2 * revenueByGroups.days ≤ lastOfFebruary.ordinal := by decide
  obtain ⟨supplied, windows, unseen⟩ := supplied_of_validate validated "game-1" lastOfFebruary
  obtain ⟨w, last, -, before⟩ := windows room
  obtain ⟨q, mem, preceding⟩ := before (by decide)
  refine ⟨validated, room, by decide +kernel, supplied, ⟨q, mem, w, last, preceding⟩, ?_⟩
  apply unseen
  rintro q ⟨s, served⟩
  rw [refusing, served]

end Execution
end MetricDesk
