import MetricDesk.Proofs.Analysis.Summary
import MetricDesk.Proofs.Sorting.Permutation
import MetricDesk.Proofs.Value.Alike
import MetricDesk.Result.Validation

/-! The rows of an executed plan. Main statement: `rows_of_execute`, beside its numbers a row of the
table or of the attribution has only labels of breakdowns. -/
namespace MetricDesk

namespace Fields

theorem get?_put (fields : Fields) (key : String) (v : Value) (k : String) :
    (fields.put key v).get? k = if k = key then some v else fields.get? k := by
  induction fields with
  | nil => simp only [put, get?_cons, eq_comm]
  | cons f rest ih =>
    obtain ⟨l, old⟩ := f
    rw [put]
    by_cases here : l = key
    · rw [if_pos here, get?_cons, get?_cons, here]
      by_cases same : key = k
      · rw [if_pos same, if_pos same.symm]
      · rw [if_neg same, if_neg (Ne.symm same), if_neg same]
    · rw [if_neg here, get?_cons, get?_cons, ih]
      by_cases found : l = k
      · have other : k ≠ key := by rwa [← found]
        rw [if_pos found, if_neg other, if_pos found]
      · rw [if_neg found, if_neg found]

theorem mem_put {fields : Fields} {key : String} {v : Value} {f : String × Value}
    (h : f ∈ fields.put key v) : f = (key, v) ∨ f ∈ fields := by
  induction fields with
  | nil =>
    rw [put] at h
    exact Or.inl (List.mem_singleton.mp h)
  | cons g rest ih =>
    obtain ⟨k, old⟩ := g
    rw [put] at h
    split at h
    · next same =>
      rw [same] at h
      exact (List.mem_cons.mp h).imp_right (List.mem_cons_of_mem _)
    · rcases List.mem_cons.mp h with rfl | h
      · exact Or.inr List.mem_cons_self
      · exact (ih h).imp_right (List.mem_cons_of_mem _)

theorem mem_keys_put {fields : Fields} {key k : String} {v : Value}
    (h : k ∈ (fields.put key v).keys) : k = key ∨ k ∈ fields.keys := by
  obtain ⟨f, mem, rfl⟩ := List.mem_map.mp h
  rcases mem_put mem with rfl | mem
  · exact Or.inl rfl
  · exact Or.inr (List.mem_map_of_mem mem)

theorem mem_ofEntries (entries : List (String × Value)) :
    ∀ f ∈ ofEntries entries, f ∈ entries := by
  unfold ofEntries
  apply List.foldlRecOn (motive := fun fields : Fields => ∀ f ∈ fields, f ∈ entries)
  · rintro f ⟨⟩
  · intro fields all e listed f mem
    rcases mem_put mem with rfl | mem
    · exact listed
    · exact all f mem

/-- A row with doubles under some keys, and beside them only labels of breakdowns. -/
structure IsRow (numbers : List String) (row : Fields) : Prop where
  keys : ∀ k ∈ Fields.keys row, k ∈ numbers ∨ k ∈ Plan.breakdownNames
  doubles : ∀ k ∈ numbers, ∃ x, Fields.get? row k = some (.dbl x)

end Fields

/-- The doubles that stand under some keys. -/
def Fields.doubles (keys : List String) (row : Fields) : List Double :=
  keys.filterMap fun k => match Fields.get? row k with
    | some (.num (.dbl x)) => some x
    | _ => none

theorem Fields.mem_doubles {keys : List String} {row : Fields} {k : String} {x : Double}
    (mem : k ∈ keys) (found : Fields.get? row k = some (.dbl x)) : x ∈ Fields.doubles keys row :=
  List.mem_filterMap.mpr ⟨k, mem, by rw [found]; rfl⟩

/-- The numbers of a result: of its summary, of its series, and those that stand in its rows. -/
def Result.numbers (r : Result) : List Double :=
  r.summary.numbers ++ r.series.map (·.value) ++ r.table.flatMap (Fields.doubles tableNumbers)
    ++ r.attribution.flatMap (Fields.doubles attributionNumbers)

theorem Result.mem_numbers_summary {r : Result} {x : Double} (mem : x ∈ r.summary.numbers) :
    x ∈ r.numbers := by
  apply List.mem_append_left
  apply List.mem_append_left
  exact List.mem_append_left _ mem

theorem Result.mem_numbers_series {r : Result} {p : Point} (mem : p ∈ r.series) :
    p.value ∈ r.numbers := by
  apply List.mem_append_left
  apply List.mem_append_left
  exact List.mem_append_right _ (List.mem_map_of_mem mem)

theorem Result.mem_numbers_table {r : Result} {row : Fields} (listed : row ∈ r.table) {k : String}
    {x : Double} (mem : k ∈ tableNumbers) (found : Fields.get? row k = some (.dbl x)) :
    x ∈ r.numbers := by
  apply List.mem_append_left
  apply List.mem_append_right
  exact List.mem_flatMap.mpr ⟨row, listed, Fields.mem_doubles mem found⟩

theorem Result.mem_numbers_attribution {r : Result} {row : Fields} (listed : row ∈ r.attribution)
    {k : String} {x : Double} (mem : k ∈ attributionNumbers)
    (found : Fields.get? row k = some (.dbl x)) : x ∈ r.numbers := by
  apply List.mem_append_right
  exact List.mem_flatMap.mpr ⟨row, listed, Fields.mem_doubles mem found⟩

/-! ### Labels -/

namespace Bucket

theorem labels_add {α : Type} {P : Fields → Prop} {key : List String} {labels : Fields} {value : α}
    {buckets : List (Bucket α)} (all : ∀ b ∈ buckets, P b.labels) (new : P labels) :
    ∀ b ∈ add key labels value buckets, P b.labels := by
  induction buckets with
  | nil =>
    rw [add]
    exact List.forall_mem_singleton.mpr new
  | cons b rest ih =>
    rw [List.forall_mem_cons] at all
    rw [add]
    split
    · exact List.forall_mem_cons.mpr all
    · exact List.forall_mem_cons.mpr ⟨all.1, ih all.2⟩

/-- The labels of a group are those of one of its rows. -/
theorem labels_ofRows {α : Type} (breakdowns : List String) (rows : List (SeriesRow α)) :
    ∀ b ∈ ofRows breakdowns rows, ∃ row ∈ rows,
      b.labels = Fields.ofEntries (breakdowns.map fun b => (b, row.label b)) := by
  unfold ofRows
  apply List.foldlRecOn (motive := fun buckets : List (Bucket α) => ∀ b ∈ buckets, ∃ row ∈ rows,
    b.labels = Fields.ofEntries (breakdowns.map fun b => (b, row.label b)))
  · rintro b ⟨⟩
  · intro buckets all row listed
    apply labels_add (P := fun labels => ∃ row ∈ rows,
      labels = Fields.ofEntries (breakdowns.map fun b => (b, row.label b))) all
    exact ⟨row, listed, rfl⟩

end Bucket

theorem TableRow.labels_ofSeries {α : Type} [Quantity α] {how : Rollup} {breakdowns : List String}
    {rows : List (SeriesRow α)} {table : List (TableRow α)}
    (h : ofSeries how breakdowns rows = .ok table) :
    ∀ row ∈ table, ∃ made ∈ rows,
      row.labels = Fields.ofEntries (breakdowns.map fun b => (b, made.label b)) := by
  unfold ofSeries at h
  split at h
  · cases h
    rintro row ⟨⟩
  · obtain ⟨made, collected, h⟩ := exists_of_bind h
    intro row mem
    obtain ⟨b, bucket, rolled⟩ :=
      exists_of_mapM collected row (Quantity.mem_of_descending h row mem)
    obtain ⟨value, -, rolled⟩ := exists_of_bind rolled
    cases rolled
    exact Bucket.labels_ofRows breakdowns rows b bucket

theorem AttributionRow.labels_ofTables {α : Type} [Quantity α] {breakdowns : List String}
    {current previous : List (TableRow α)} {rows : List (AttributionRow α)}
    (h : ofTables breakdowns current previous = .ok rows) :
    ∀ row ∈ rows, ∃ group ∈ current, row.labels = group.labels := by
  unfold ofTables at h
  split at h
  · cases h
    rintro row ⟨⟩
  · obtain ⟨made, collected, h⟩ := exists_of_bind h
    intro row mem
    obtain ⟨t, listed, joined⟩ :=
      exists_of_mapM collected row (Quantity.mem_of_descending h row mem)
    obtain ⟨delta, -, joined⟩ := exists_of_bind joined
    cases joined
    exact ⟨t, listed, rfl⟩

/-! ### Rows of a result -/

theorem Plan.mem_breakdownNames {plan : Plan} {k : String} (h : k ∈ plan.groups) :
    k ∈ Plan.breakdownNames := by
  obtain ⟨b, -, rfl⟩ := List.mem_map.mp h
  cases b <;> decide

/-- The labels of a row are labels of breakdowns. -/
def Fields.IsLabels (labels : Fields) : Prop := ∀ k ∈ Fields.keys labels, k ∈ Plan.breakdownNames

theorem TableRow.get?_toFields (row : TableRow Double) :
    Fields.get? (row.toFields .dbl) "value" = some (.dbl row.value) := by
  rw [toFields, Fields.get?_put, if_pos rfl]

theorem AttributionRow.get?_toFields (row : AttributionRow Double) :
    Fields.get? (row.toFields .dbl) "current" = some (.dbl row.current) ∧
      Fields.get? (row.toFields .dbl) "previous" = some (.dbl row.previous) ∧
      Fields.get? (row.toFields .dbl) "delta" = some (.dbl row.delta) := by
  simp only [toFields, Fields.get?_put]
  exact ⟨rfl, rfl, rfl⟩

theorem TableRow.isRow {row : TableRow Double} (labels : Fields.IsLabels row.labels) :
    Fields.IsRow Result.tableNumbers (row.toFields .dbl) where
  keys := by
    intro k mem
    rcases Fields.mem_keys_put mem with rfl | mem
    · exact Or.inl List.mem_cons_self
    · exact Or.inr (labels k mem)
  doubles := by
    intro k mem
    rw [List.mem_singleton.mp mem]
    exact ⟨row.value, row.get?_toFields⟩

theorem AttributionRow.isRow {row : AttributionRow Double} (labels : Fields.IsLabels row.labels) :
    Fields.IsRow Result.attributionNumbers (row.toFields .dbl) where
  keys := by
    intro k mem
    rcases Fields.mem_keys_put mem with rfl | mem
    · exact Or.inl (by decide)
    rcases Fields.mem_keys_put mem with rfl | mem
    · exact Or.inl (by decide)
    rcases Fields.mem_keys_put mem with rfl | mem
    · exact Or.inl (by decide)
    · exact Or.inr (labels k mem)
  doubles := by
    intro k mem
    simp only [Result.attributionNumbers, List.mem_cons, List.not_mem_nil, or_false] at mem
    obtain ⟨current, previous, delta⟩ := row.get?_toFields
    rcases mem with rfl | rfl | rfl
    · exact ⟨row.current, current⟩
    · exact ⟨row.previous, previous⟩
    · exact ⟨row.delta, delta⟩

namespace Analysis

variable {plan : Plan} {s : PlanSeries Double} {a : Analysis Double}

/-- The groups of an analysis have the labels of rows of its series. -/
theorem Steps.of_groups (steps : Steps plan s a) {P : Fields → Prop}
    (each : ∀ row ∈ s.groups, P (Fields.ofEntries (plan.groups.map fun b => (b, row.label b)))) :
    (∀ row ∈ a.table, P row.labels) ∧ ∀ row ∈ a.attribution, P row.labels := by
  have table : ∀ row ∈ a.table, P row.labels := by
    intro row mem
    obtain ⟨made, listed, same⟩ := TableRow.labels_ofSeries steps.table row mem
    rw [same]
    exact each made listed
  refine ⟨table, ?_⟩
  rcases steps.compared with ⟨-, -, -, -, none⟩ | ⟨_, _, _, _, -, -, -, -, joined, -⟩
  · rw [none]
    rintro row ⟨⟩
  · intro row mem
    obtain ⟨group, listed, same⟩ := AttributionRow.labels_ofTables joined row mem
    rw [same]
    exact table group listed

/-- The groups of an analysis are named by labels of breakdowns. -/
theorem Steps.labels (steps : Steps plan s a) :
    (∀ row ∈ a.table, Fields.IsLabels row.labels) ∧
      ∀ row ∈ a.attribution, Fields.IsLabels row.labels := by
  apply steps.of_groups
  intro row _ k key
  obtain ⟨f, listed, rfl⟩ := List.mem_map.mp key
  obtain ⟨b, group, rfl⟩ := List.mem_map.mp (Fields.mem_ofEntries _ f listed)
  exact Plan.mem_breakdownNames group

end Analysis

namespace Execution

theorem rows_of_execute {source : Source} {question tenant : String} {plan : Plan} {today : Date}
    {r : Result} (done : execute source question tenant plan today = .done r) :
    (∀ row ∈ r.table, Fields.IsRow Result.tableNumbers row) ∧
      ∀ row ∈ r.attribution, Fields.IsRow Result.attributionNumbers row := by
  obtain ⟨s, a, made, rfl⟩ := exists_analysis done
  obtain ⟨table, attribution⟩ := (Analysis.steps_of_ofSeries made).labels
  constructor
  · intro row mem
    obtain ⟨group, listed, rfl⟩ := List.mem_map.mp mem
    exact TableRow.isRow (table group listed)
  · intro row mem
    obtain ⟨group, listed, rfl⟩ := List.mem_map.mp mem
    exact AttributionRow.isRow (attribution group listed)

end Execution
end MetricDesk
