import MetricDesk.Proofs.Warehouse.Supply

/-! The words of a statement. Main statement: `ofQuery_worded`, they come out of the tables and not
out of the request: two queries of one metric and of the same breakdowns have one text, to which
their tenants and days are bound. -/
namespace MetricDesk.Warehouse

theorem name_injective {b c : Breakdown} (same : b.name = c.name) : b = c := by
  cases b <;> cases c <;> first | rfl | exact absurd same (by decide)

namespace Statement

variable {metric : String} {t : Table}

/-- There is a statement for a query: its metric has a table, and that has its breakdowns. -/
def Served (q : Query) : Prop :=
  ∃ m t, Metric.ofName? q.metric = some m ∧ table? m = some t ∧
    ∀ name ∈ q.breakdowns, ∃ b ∈ t.groups, b.name = name

/-! ### Tables and their groups -/

theorem tableOf_eq_ok : tableOf metric = .ok t ↔
    ∃ m, Metric.ofName? metric = some m ∧ table? m = some t := by
  rw [← Option.bind_eq_some_iff, tableOf]
  cases (Metric.ofName? metric).bind table? with
  | none => exact iff_of_false (by rintro ⟨⟩) (by rintro ⟨⟩)
  | some t' => rw [Except.ok.injEq, Option.some.injEq]

theorem groupOf_eq_ok {name : String} {b : Breakdown} :
    groupOf t metric name = .ok b ↔ b ∈ t.groups ∧ b.name = name := by
  unfold groupOf
  split
  · next c found =>
    have listed := List.mem_of_find?_eq_some found
    have named : c.name = name := by simpa using List.find?_some found
    constructor
    · rintro ⟨⟩
      exact ⟨listed, named⟩
    · rintro ⟨-, same⟩
      rw [name_injective (same.trans named.symm)]
  · next none =>
    refine iff_of_false (by rintro ⟨⟩) ?_
    rintro ⟨listed, rfl⟩
    simpa using List.find?_eq_none.mp none b listed

/-- A statement is that of a table, by those of its groups that the query names. -/
theorem exists_of_ofQuery {q : Query} {s : Statement} (h : ofQuery q = .ok s) :
    ∃ t groups, tableOf q.metric = .ok t ∧ (∀ b ∈ groups, b ∈ t.groups) ∧
      groups.map (·.name) = q.breakdowns ∧ s = ofTable t q.granularity groups := by
  obtain ⟨t, found, h⟩ := exists_of_bind h
  obtain ⟨groups, named, h⟩ := exists_of_bind h
  cases h
  refine ⟨t, groups, found, ?_, ?_, rfl⟩
  · intro b mem
    obtain ⟨name, -, group⟩ := exists_of_mapM named b mem
    exact (groupOf_eq_ok.mp group).1
  · have texts : groups.map (·.name) = q.breakdowns.map id :=
      map_of_mapM named fun name b group => (groupOf_eq_ok.mp group).2
    rw [texts, List.map_id]

theorem succeeds_iff_served {q : Query} : Succeeds (ofQuery q) ↔ Served q := by
  constructor
  · rintro ⟨s, h⟩
    obtain ⟨t, groups, found, listed, named, -⟩ := exists_of_ofQuery h
    obtain ⟨m, metric, table⟩ := tableOf_eq_ok.mp found
    refine ⟨m, t, metric, table, ?_⟩
    intro name mem
    rw [← named] at mem
    obtain ⟨b, group, rfl⟩ := List.mem_map.mp mem
    exact ⟨b, listed b group, rfl⟩
  · rintro ⟨m, t, metric, table, groups⟩
    exact succeeds_ofQuery metric table groups

theorem kind_of_ofQuery {q : Query} {failure : Failure} (h : ofQuery q = .error failure) :
    failure.kind = .dataSource := by
  rcases error_of_bind h with none | ⟨t, -, h⟩
  · unfold tableOf at none
    split at none
    · cases none
    · cases none
      rfl
  · rcases error_of_bind h with none | ⟨groups, -, h⟩
    · obtain ⟨name, -, none⟩ := error_of_mapM none
      unfold groupOf at none
      split at none
      · cases none
      · cases none
        rfl
    · cases h

/-! ### Texts -/

/-- A day, cut to the week or left as it is. -/
def cutDay (q : Query) (t : Table) : String :=
  "date_trunc('" ++ (if q.granularity = "week" then "week" else "day") ++ "', " ++
    identifier t.day ++ ")::date"

/-- What is read: the day, the value and the columns of the breakdowns. -/
def columnsRead (q : Query) (t : Table) (groups : List Breakdown) : List String :=
  (cutDay q t ++ " AS \"date\"") :: (t.value ++ " AS \"value\"") ::
    groups.map fun b => identifier (column b) ++ " AS " ++ identifier b.name

/-- The filter by tenant, the two bounds of the days and the age of a cohort. -/
def filters (t : Table) : List String :=
  ["\"gameId\" = :tenant_id", identifier t.day ++ " >= :start_date",
    identifier t.day ++ " <= :end_date"]
    ++ (t.age.map fun n => "\"dayIndex\" = " ++ toString n).toList

/-- What rows are grouped by: the cut day and the columns of the breakdowns. -/
def keys (q : Query) (t : Table) (groups : List Breakdown) : List String :=
  cutDay q t :: groups.map fun b => identifier (column b)

theorem map_conditionsOf (t : Table) : (conditionsOf t).map Condition.text = filters t := by
  have bounded (column operator words : String) (p : Parameter)
      (h : " " ++ operator ++ " :" ++ p.name = words) :
      (Condition.compares column operator p).text = identifier column ++ words := by
    rw [Condition.text, ← h]
    simp only [String.append_assoc]
  unfold conditionsOf filters
  rw [List.map_append, List.map_cons, List.map_cons, List.map_singleton,
    bounded _ _ " = :tenant_id" _ rfl, bounded _ _ " >= :start_date" _ rfl,
    bounded _ _ " <= :end_date" _ rfl]
  cases t.age with
  | none => rfl
  | some n => rfl

theorem text_eq (s : Statement) : s.text =
    "SELECT " ++ ", ".intercalate (s.columns.map fun c => c.1 ++ " AS " ++ identifier c.2) ++
      "\nFROM " ++ identifier s.table ++
      "\nWHERE " ++ "\n  AND ".intercalate (s.conditions.map Condition.text) ++
      "\nGROUP BY " ++ ", ".intercalate s.groups ++
      "\nORDER BY " ++ ", ".intercalate s.groups := rfl

theorem text_ofTable (q : Query) (t : Table) (groups : List Breakdown) :
    (ofTable t q.granularity groups).text =
      "SELECT " ++ ", ".intercalate (columnsRead q t groups) ++ "\nFROM " ++ identifier t.name ++
        "\nWHERE " ++ "\n  AND ".intercalate (filters t) ++
        "\nGROUP BY " ++ ", ".intercalate (keys q t groups) ++
        "\nORDER BY " ++ ", ".intercalate (keys q t groups) := by
  have cut : bucket q.granularity t.day = cutDay q t := rfl
  have named (e : String) {name words : String} (h : " AS " ++ identifier name = words) :
      e ++ " AS " ++ identifier name = e ++ words := by
    rw [String.append_assoc, h]
  have columns : (ofTable t q.granularity groups).columns.map (fun c =>
      c.1 ++ " AS " ++ identifier c.2) = columnsRead q t groups := by
    have day : cutDay q t ++ " AS " ++ identifier "date" = cutDay q t ++ " AS \"date\"" :=
      named _ rfl
    have value : t.value ++ " AS " ++ identifier "value" = t.value ++ " AS \"value\"" :=
      named _ rfl
    rw [ofTable, cut, List.map_append, List.map_map, columnsRead, ← day, ← value]
    rfl
  have conditions : (ofTable t q.granularity groups).conditions.map Condition.text = filters t :=
    map_conditionsOf t
  have grouped : (ofTable t q.granularity groups).groups = keys q t groups := by
    rw [ofTable, cut, keys]
  rw [text_eq, columns, conditions, grouped]
  rfl

/-- The words of a statement come out of the tables. There is one for a metric with a table and for
breakdowns that it has, and any other query is refused. Two queries of one metric and of the same
breakdowns have the same one, if both or neither are by week: their tenants and days are bound to
it. It filters by the tenant and both bounds, and groups by the cut day and every breakdown. -/
theorem ofQuery_worded (q : Query) :
    (∀ failure, ofQuery q = .error failure → failure.kind = .dataSource) ∧
      (Succeeds (ofQuery q) ↔ Served q) ∧
      (∀ other : Query, other.metric = q.metric → other.breakdowns = q.breakdowns →
        (other.granularity = "week" ↔ q.granularity = "week") → ofQuery other = ofQuery q) ∧
      arguments q = [("tenant_id", .str q.tenant), ("start_date", .day q.window.start),
        ("end_date", .day q.window.stop)] ∧
      ∀ s, ofQuery q = .ok s → ∃ m t groups, Metric.ofName? q.metric = some m ∧
        table? m = some t ∧ groups.map (·.name) = q.breakdowns ∧
        s.text =
          "SELECT " ++ ", ".intercalate (columnsRead q t groups) ++ "\nFROM " ++
            identifier t.name ++ "\nWHERE " ++ "\n  AND ".intercalate (filters t) ++
            "\nGROUP BY " ++ ", ".intercalate (keys q t groups) ++
            "\nORDER BY " ++ ", ".intercalate (keys q t groups) := by
  refine ⟨fun failure => kind_of_ofQuery, succeeds_iff_served, ?_, rfl, ?_⟩
  · intro other metric breakdowns weekly
    have cut : unit other.granularity = unit q.granularity := if_congr weekly rfl rfl
    have tables (t : Table) (groups : List Breakdown) :
        ofTable t other.granularity groups = ofTable t q.granularity groups := by
      rw [ofTable, ofTable, bucket, bucket, cut]
    rw [ofQuery, ofQuery, metric, breakdowns]
    simp only [tables]
  · intro s h
    obtain ⟨t, groups, found, -, named, rfl⟩ := exists_of_ofQuery h
    obtain ⟨m, metric, table⟩ := tableOf_eq_ok.mp found
    exact ⟨m, t, groups, metric, table, named, text_ofTable q t groups⟩

/-- Users by country, for a tenant and in a unit that are pieces of a statement. -/
def injected : Query where
  tenant := "game-1' OR ''='"
  metric := "dau"
  window := ⟨⟨739342, by decide, by decide⟩, ⟨739345, by decide, by decide⟩⟩
  granularity := "week', now())"
  breakdowns := ["country"]

/-- The pieces are bound or left out. As a breakdown they are refused. -/
theorem injected_worded :
    ofQuery injected = ofQuery { injected with tenant := "game-2", granularity := "day" } ∧
      (∃ s, ofQuery injected = .ok s ∧ s.text =
        "SELECT date_trunc('day', \"date\")::date AS \"date\", "
          ++ "SUM(\"dau\")::double precision AS \"value\", \"countryCode\" AS \"country\""
          ++ "\nFROM \"active_users_daily\"\nWHERE \"gameId\" = :tenant_id"
          ++ "\n  AND \"date\" >= :start_date\n  AND \"date\" <= :end_date"
          ++ "\nGROUP BY date_trunc('day', \"date\")::date, \"countryCode\""
          ++ "\nORDER BY date_trunc('day', \"date\")::date, \"countryCode\"") ∧
      ∀ s, ofQuery { injected with breakdowns := ["country\", now() AS \"x"] } ≠ .ok s := by
  obtain ⟨-, -, same, -, -⟩ :=
    ofQuery_worded { injected with tenant := "game-2", granularity := "day" }
  obtain ⟨-, served, -, -, -⟩ :=
    ofQuery_worded { injected with breakdowns := ["country\", now() AS \"x"] }
  refine ⟨same injected rfl rfl (by decide), ⟨_, rfl, by decide +kernel⟩, ?_⟩
  intro s h
  obtain ⟨m, t, metric, table, groups⟩ := served.mp ⟨s, h⟩
  obtain ⟨b, -, named⟩ := groups _ List.mem_cons_self
  cases b <;> exact absurd named (by decide)

end Statement
end MetricDesk.Warehouse
