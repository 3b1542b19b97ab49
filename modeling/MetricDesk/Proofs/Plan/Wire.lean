import MetricDesk.Cache.Key
import MetricDesk.Plan.Validation
import MetricDesk.Proofs.Json.Canonical

/-! The wire form of a plan. Main statements: `ofValue?_toValue`, a plan is read back from its wire
form, and `canonical_injective`, its canonical text tells it from every other plan. -/
namespace MetricDesk

theorem Metric.ofName?_name (m : Metric) : Metric.ofName? m.name = some m := by
  cases m <;> rfl

theorem Breakdown.ofName?_name (b : Breakdown) : Breakdown.ofName? b.name = some b := by
  cases b <;> rfl

theorem Granularity.ofName?_name (g : Granularity) : Granularity.ofName? g.name = some g := by
  cases g <;> rfl

theorem Comparison.ofName?_name (c : Comparison) : Comparison.ofName? c.name = some c := by
  cases c <;> rfl

theorem ResponseMode.ofName?_name (m : ResponseMode) : ResponseMode.ofName? m.name = some m := by
  cases m <;> rfl

theorem Confidence.ofName?_name (c : Confidence) : Confidence.ofName? c.name = some c := by
  cases c <;> rfl

theorem FilterValue.toValue_injective {x y : FilterValue} (h : x.toValue = y.toValue) : x = y := by
  cases x <;> cases y <;> cases h <;> rfl

theorem Filter.toValue_injective {f g : Filter} (h : f.toValue = g.toValue) : f = g := by
  obtain ⟨field, op, value⟩ := f
  obtain ⟨field', op', value'⟩ := g
  simp only [Filter.toValue, Value.obj.injEq, List.cons.injEq, Prod.mk.injEq, Value.str.injEq,
    true_and, and_true] at h
  obtain ⟨rfl, rfl, value⟩ := h
  rw [FilterValue.toValue_injective value]

namespace Plan

theorem filterOf?_toValue (f : Filter) : filterOf? f.toValue = some f := by
  obtain ⟨field, op, value⟩ := f
  cases value <;> rfl

theorem mapM_of_read {α β γ : Type} (read : β → Option γ) (write : α → β) (f : α → γ)
    (each : ∀ a, read (write a) = some (f a)) (xs : List α) :
    (xs.map write).mapM read = some (xs.map f) := by
  induction xs with
  | nil => rfl
  | cons x xs ih => simp [each, ih]

theorem mapM_of_inverse {α β : Type} (read : β → Option α) (write : α → β)
    (inverse : ∀ a, read (write a) = some a) (xs : List α) :
    (xs.map write).mapM read = some xs := by
  rw [mapM_of_read read write id inverse, List.map_id]

/-- Fields under whose keys stand the parts of a plan, in whatever order. The days may be a double
and the filters in another order of keys. -/
structure Spells (fields : Fields) (p : Plan) (span compared : Fields) : Prop where
  game : Fields.get? fields "game" = some (.str p.game)
  metric : Fields.get? fields "metric" = some (.str p.metric.name)
  granularity : Fields.get? fields "granularity" = some (.str p.granularity.name)
  range : Fields.get? fields "time_range" = some (.obj span)
  days : ∃ n, Fields.get? span "n" = some n ∧ daysOf? n = some p.days
  breakdowns : Fields.get? fields "breakdowns" =
    some (.list (p.breakdowns.map fun b => .str b.name))
  comparison : Fields.get? fields "comparison" = some (.obj compared)
  kind : Fields.get? compared "type" = some (.str p.comparison.name)
  analysis : Fields.get? fields "analysis" = some (.list (p.analysis.map .str))
  filters : ∃ xs, Fields.get? fields "filters" = some (.list xs) ∧
    xs.mapM filterOf? = some p.filters
  mode : Fields.get? fields "response_mode" = some (.str p.mode.name)

/-- Fields that spell a plan are read as it. -/
theorem Spells.read {fields span compared : Fields} {p : Plan}
    (h : Spells fields p span compared) : ofValue? (.obj fields) = some p := by
  have metric : metricOf? fields = some p.metric := by
    rw [metricOf?, h.metric]
    exact Metric.ofName?_name p.metric
  have breakdowns : breakdownsOf? fields = some p.breakdowns := by
    rw [breakdownsOf?, h.breakdowns]
    exact mapM_of_inverse _ (fun b : Breakdown => Value.str b.name) Breakdown.ofName?_name _
  obtain ⟨n, there, days⟩ := h.days
  obtain ⟨xs, listed, filters⟩ := h.filters
  simp only [ofValue?, h.game, metric, h.granularity, h.range, there, days, breakdowns,
    h.comparison, h.kind, h.analysis, listed, filters, h.mode, Granularity.ofName?_name,
    Comparison.ofName?_name, ResponseMode.ofName?_name, Option.bind_some, Option.bind_eq_bind]
  rw [mapM_of_inverse _ Value.str fun _ => rfl]
  rfl

/-- A plan is read back from its wire form. -/
theorem ofValue?_toValue (p : Plan) : ofValue? p.toValue = some p := by
  have spelled : Spells p.toFields p [("type", .str timeRangeType), ("n", .nat p.days)]
      [("type", .str p.comparison.name)] :=
    { game := rfl, metric := rfl, granularity := rfl, range := rfl, days := ⟨_, rfl, rfl⟩
      breakdowns := rfl, comparison := rfl, kind := rfl, analysis := rfl
      filters := ⟨_, rfl, mapM_of_inverse _ _ filterOf?_toValue _⟩, mode := rfl }
  exact spelled.read

/-! ### The canonical text -/

theorem sorted_filter (f : Filter) : Json.sorted f.toValue = f.toValue := by
  obtain ⟨field, op, value⟩ := f
  cases value <;> rfl

theorem sortedItems_map {α : Type} {write : α → Value}
    (fixed : ∀ a, Json.sorted (write a) = write a) (xs : List α) :
    Json.sortedItems (xs.map write) = xs.map write := by
  induction xs with
  | nil => rfl
  | cons x xs ih => rw [List.map_cons, Json.sortedItems, fixed, ih]

theorem foreignItem?_map {α : Type} {write : α → Value}
    (json : ∀ a, Json.foreign? (write a) = none) (xs : List α) :
    Json.foreignItem? (xs.map write) = none := by
  induction xs with
  | nil => rfl
  | cons x xs ih => rw [List.map_cons, Json.foreignItem?, json, ih]; rfl

/-- The wire form with its keys in ascending order. -/
theorem sorted_toValue (p : Plan) : Json.sorted p.toValue = .obj [
    ("analysis", .list (p.analysis.map .str)),
    ("breakdowns", .list (p.breakdowns.map fun b => .str b.name)),
    ("comparison", .obj [("type", .str p.comparison.name)]),
    ("filters", .list (p.filters.map Filter.toValue)),
    ("game", .str p.game),
    ("granularity", .str p.granularity.name),
    ("metric", .str p.metric.name),
    ("response_mode", .str p.mode.name),
    ("time_range", .obj [("n", .nat p.days), ("type", .str timeRangeType)])] := by
  have breakdowns : Json.sortedItems (p.breakdowns.map fun b => .str b.name) =
      p.breakdowns.map fun b => .str b.name := sortedItems_map (fun _ => rfl) _
  have analysis : Json.sortedItems (p.analysis.map .str) = p.analysis.map .str :=
    sortedItems_map (fun _ => rfl) _
  have filters := sortedItems_map sorted_filter p.filters
  simp only [toValue, toFields, Json.sorted, Json.sortedFields, breakdowns, analysis, filters]
  rfl

theorem foreign_sorted (p : Plan) : Json.foreign? (Json.sorted p.toValue) = none := by
  have breakdowns := foreignItem?_map
    (fun b : Breakdown => (rfl : Json.foreign? (.str b.name) = none)) p.breakdowns
  have analysis := foreignItem?_map
    (fun s : String => (rfl : Json.foreign? (.str s) = none)) p.analysis
  have filters : Json.foreignItem? (p.filters.map Filter.toValue) = none := by
    apply foreignItem?_map
    rintro ⟨field, op, value⟩
    cases value <;> rfl
  rw [sorted_toValue]
  simp only [Json.foreign?, Json.foreignField?, breakdowns, analysis, filters, Value.nat]
  rfl

/-- The canonical text of a plan tells it from every other. -/
theorem canonical_injective {p q : Plan} (h : Key.canonical p.toValue = Key.canonical q.toValue) :
    p = q := by
  have same := Json.text_injective (foreign_sorted p) (foreign_sorted q) h
  have read (p : Plan) : ofValue? (Json.sorted p.toValue) = some p := by
    rw [sorted_toValue]
    exact Spells.read
      { game := rfl, metric := rfl, granularity := rfl, range := rfl, days := ⟨_, rfl, rfl⟩
        breakdowns := rfl, comparison := rfl, kind := rfl, analysis := rfl
        filters := ⟨_, rfl, mapM_of_inverse _ _ filterOf?_toValue _⟩, mode := rfl }
  have found := read p
  rw [same, read] at found
  exact (Option.some_injective _ found).symm

end Plan
end MetricDesk
