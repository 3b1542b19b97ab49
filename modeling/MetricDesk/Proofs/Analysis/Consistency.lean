import MetricDesk.Proofs.Analysis.Ranking
import MetricDesk.Proofs.Analysis.Rows
import MetricDesk.Proofs.Sorting.MergeSort

/-! How the parts of an executed plan hang together. Main statement: `consistent_of_execute`, where
all numbers are numbers the summary is that of the series, the attribution ranks the groups of the
table by their moves, and the confidence says whether groups could be compared. -/
namespace MetricDesk

/-! ### Roll-ups in doubles -/

namespace Double

/-- The values added from the left. -/
def sum (values : List Double) : Double := values.foldl add zero

/-- The arithmetic mean. -/
def mean (values : List Double) : Double := (sum values).div (.ofInt values.length)

end Double

/-- The sum or the mean of values, zero of none. -/
def Rollup.rolled (how : Rollup) (values : List Double) : Double :=
  if values.isEmpty then .zero
  else match how with
    | .sum => Double.sum values
    | .mean => Double.mean values

theorem Rollup.round_rolled_nil (how : Rollup) : (how.rolled []).round 2 = .zero := by
  have zero : Double.zero.round 2 = .zero := by decide +kernel
  exact zero

theorem total_eq (values : List Double) : total values = .ok (Double.sum values) := by
  suffices added : ∀ start : Double,
      values.foldlM Quantity.add start = (.ok (values.foldl Double.add start) : Except Failure _) from
    added .zero
  induction values with
  | nil => exact fun _ => rfl
  | cons x xs ih => exact fun start => ih (start.add x)

theorem aggregate_eq {how : Rollup} {values : List Double} {x : Double}
    (h : aggregate how values = .ok x) : x = how.rolled values := by
  unfold aggregate at h
  unfold Rollup.rolled
  split at h
  · next none =>
    cases h
    rw [if_pos none]
    rfl
  · next some =>
    rw [if_neg some]
    obtain ⟨sum, added, h⟩ := exists_of_bind h
    rw [total_eq] at added
    cases added
    cases how with
    | sum => exact (Except.ok.inj h).symm
    | mean =>
      simp only [Quantity.div] at h
      split at h
      · cases h
      · exact (Except.ok.inj h).symm

theorem Analysis.headline_eq {plan : Plan} {rows : List (SeriesRow Double)} {x : Double}
    (h : headline plan rows = .ok x) :
    x = (plan.metric.rollup.rolled (rows.map (·.value))).round 2 := by
  obtain ⟨y, rolled, rounded⟩ := exists_of_bind h
  rw [← aggregate_eq rolled]
  exact (Except.ok.inj rounded).symm

/-- There is a percentage unless the previous value is zero. -/
theorem percentChange_eq {change previous : Double} {percent : Option Double}
    (h : percentChange change previous = .ok percent) :
    percent = if previous.isZero then none else some (((change.div previous).mul
      (.ofInt 100)).round 2) := by
  obtain ⟨zero, asked, h⟩ := exists_of_bind h
  cases asked
  cases zero : previous.isZero with
  | true =>
    rw [zero, if_pos rfl] at h
    cases h
    rfl
  | false =>
    simp only [zero, Quantity.div, Quantity.mul, Quantity.round] at h
    cases h
    rfl

/-! ### Rows as fields -/

namespace Fields

/-- The fields of a row that name its group. -/
def group (row : Fields) : Fields := row.filter fun f => Plan.breakdownNames.contains f.1

/-- One row stands before another by what is under a key, the greater measure first. -/
def Descends (key : String) (measure : Double → Double) (row next : Fields) : Prop :=
  ∃ x y, Fields.get? row key = some (.dbl x) ∧ Fields.get? next key = some (.dbl y) ∧
    (measure y).le (measure x) = true

theorem group_put {fields : Fields} {key : String} {v : Value}
    (number : Plan.breakdownNames.contains key = false) :
    group (fields.put key v) = group fields := by
  induction fields with
  | nil => simp only [put, group, List.filter_cons, number, Bool.false_eq_true, if_false]
  | cons f rest ih =>
    obtain ⟨k, old⟩ := f
    rw [put]
    by_cases here : k = key
    · have drops : Plan.breakdownNames.contains k = false := by rw [here, number]
      rw [if_pos here, group, group, List.filter_cons, List.filter_cons]
      simp only [drops, Bool.false_eq_true, if_false]
    · rw [if_neg here, group, group, List.filter_cons, List.filter_cons, ← group, ih, group]

theorem IsLabels.group_eq {labels : Fields} (h : IsLabels labels) : group labels = labels := by
  apply List.filter_eq_self.mpr
  intro f mem
  exact List.contains_iff_mem.mpr (h f.1 (List.mem_map_of_mem mem))

end Fields

/-- Measured rows stand in order as their numbers do. -/
theorem Fields.pairwise_descends {β : Type} {rows : List β} {toFields : β → Fields}
    {number : β → Double} {key : String} {measure : Double → Double}
    (found : ∀ b, Fields.get? (toFields b) key = some (.dbl (number b)))
    (order : rows.Pairwise fun a b => (measure (number b)).le (measure (number a)) = true) :
    (rows.map toFields).Pairwise (Fields.Descends key measure) := by
  rw [List.pairwise_map]
  apply order.imp
  intro a b atMost
  exact ⟨number a, number b, found a, found b, atMost⟩

/-- The groups of measured rows, each with its number. -/
theorem Fields.map_group {β : Type} {rows : List β} {toFields labels : β → Fields}
    {number : β → Double} {key : String}
    (groups : ∀ b ∈ rows, Fields.group (toFields b) = labels b)
    (found : ∀ b, Fields.get? (toFields b) key = some (.dbl (number b))) :
    (rows.map toFields).map (fun row => (Fields.group row, Fields.get? row key)) =
      (rows.map fun b => (labels b, number b)).map fun pair => (pair.1, some (.dbl pair.2)) := by
  rw [List.map_map, List.map_map]
  apply List.map_congr_left
  intro b mem
  rw [Function.comp_apply, Function.comp_apply, groups b mem, found b]

theorem Plan.groups_nil {plan : Plan} (ungrouped : plan.breakdowns = []) : plan.groups = [] := by
  rw [groups, ungrouped, List.map_nil]

namespace TableRow

theorem ofSeries_nil {α : Type} [Quantity α] (how : Rollup) (rows : List (SeriesRow α)) :
    ofSeries how [] rows = .ok [] := rfl

theorem group_toFields {row : TableRow Double} (labels : Fields.IsLabels row.labels) :
    Fields.group (row.toFields .dbl) = row.labels := by
  rw [toFields, Fields.group_put (by decide), labels.group_eq]

end TableRow

namespace AttributionRow

theorem ofTables_nil {α : Type} [Quantity α] (current previous : List (TableRow α)) :
    ofTables [] current previous = .ok [] := rfl

theorem group_toFields {row : AttributionRow Double} (labels : Fields.IsLabels row.labels) :
    Fields.group (row.toFields .dbl) = row.labels := by
  rw [toFields, Fields.group_put (by decide), Fields.group_put (by decide),
    Fields.group_put (by decide), labels.group_eq]

end AttributionRow

/-! ### Results -/

namespace Result

/-- The summary is that of the series. -/
structure Summarized (r : Result) : Prop where
  /-- The value is the roll-up of the series with two decimal places, and zero without a series. -/
  value : r.summary.value = (r.plan.metric.rollup.rolled (r.series.map (·.value))).round 2
  empty : r.series = [] → r.summary.value = .zero
  /-- Nothing is compared unless the plan asks for it. -/
  previous : r.summary.previous = none ↔ r.plan.comparing = false
  change : r.summary.change = none ↔ r.plan.comparing = false
  changePercent : r.summary.changePercent = none ↔
    r.plan.comparing = false ∨
      ∃ previous, r.summary.previous = some previous ∧ previous.isZero = true
  moved : ∀ previous change, r.summary.previous = some previous → r.summary.change = some change →
    change = (r.summary.value.sub previous).round 2 ∧
      ∀ percent, r.summary.changePercent = some percent →
        percent = ((change.div previous).mul (.ofInt 100)).round 2

/-- Table and attribution have the same groups, each in its order. -/
structure Tabulated (r : Result) : Prop where
  /-- There is a table only by groups, the greatest value first. -/
  untabled : r.plan.breakdowns = [] → r.table = []
  table : r.table.Pairwise (Fields.Descends "value" id)
  /-- There is an attribution only of compared groups. It has the groups of the table with their
  values, each with its move, the greatest move first. -/
  unattributed : r.plan.comparing = false ∨ r.plan.breakdowns = [] → r.attribution = []
  attributed : r.plan.comparing = true → r.plan.breakdowns ≠ [] →
    (r.attribution.map fun row => (Fields.group row, Fields.get? row "current")).Perm
      (r.table.map fun row => (Fields.group row, Fields.get? row "value"))
  delta : ∀ row ∈ r.attribution, ∃ current previous,
    Fields.get? row "current" = some (.dbl current) ∧
      Fields.get? row "previous" = some (.dbl previous) ∧
      Fields.get? row "delta" = some (.dbl (current.sub previous))
  attribution : r.attribution.Pairwise (Fields.Descends "delta" .abs)

/-- The parts of a result hang together. Confidence is low where groups were asked for and none
could be compared, and high otherwise. -/
structure Consistent (r : Result) : Prop extends Summarized r, Tabulated r where
  low : r.confidence = .low ↔ r.plan.breakdowns ≠ [] ∧ r.attribution = []
  high : r.confidence ≠ .low → r.confidence = .high

end Result

namespace Analysis

variable {plan : Plan} {s : PlanSeries Double} {a : Analysis Double}

/-- What is compared, and how. -/
theorem Steps.summary (steps : Steps plan s a) :
    (plan.comparing = false ∧ a.previous = none ∧ a.change = none ∧ a.changePercent = none) ∨
      ∃ previous, plan.comparing = true ∧ a.previous = some previous ∧
        a.change = some ((a.value.sub previous).round 2) ∧
        a.changePercent = if previous.isZero then none
          else some (((((a.value.sub previous).round 2).div previous).mul (.ofInt 100)).round 2) := by
  rcases steps.compared with ⟨single, none, noChange, noPercent, -⟩ |
    ⟨previous, change, percent, -, comparing, -, changed, counted, -, some, someChange, same⟩
  · exact Or.inl ⟨single, none, noChange, noPercent⟩
  · obtain rfl := Except.ok.inj changed
    exact Or.inr ⟨previous, comparing, some, someChange, same.trans (percentChange_eq counted)⟩

/-- The rows of an attribution, where there is one. -/
theorem Steps.attributed (steps : Steps plan s a) :
    (plan.comparing = false ∨ plan.breakdowns = [] → a.attribution = []) ∧
      (plan.comparing = true → plan.breakdowns ≠ [] →
        (a.attribution.map fun row => (row.labels, row.current)).Perm
          (a.table.map fun row => (row.labels, row.value))) ∧
      (∀ row ∈ a.attribution, row.delta = row.current.sub row.previous) ∧
      ((∀ row ∈ a.attribution, row.delta.isNan = false) →
        a.attribution.Pairwise fun row next => next.delta.abs.le row.delta.abs = true) := by
  rcases steps.compared with ⟨single, -, -, -, none⟩ |
    ⟨previous, change, percent, before, comparing, -, -, -, attributed, -⟩
  · rw [none]
    refine ⟨fun _ => rfl, ?_, by rintro row ⟨⟩, fun _ => .nil⟩
    intro comparing
    rw [single] at comparing
    cases comparing
  · obtain ⟨delta, order⟩ := AttributionRow.delta_of_ofTables attributed
    refine ⟨?_, ?_, delta, order⟩
    · rintro (single | ungrouped)
      · rw [single] at comparing
        cases comparing
      · rw [Plan.groups_nil ungrouped, AttributionRow.ofTables_nil] at attributed
        exact (Except.ok.inj attributed).symm
    · intro _ grouped
      apply AttributionRow.perm_of_ofTables attributed
      exact fun none => grouped (List.map_eq_nil_iff.mp none)

theorem Steps.summarized (steps : Steps plan s a) (question tenant : String) :
    (a.toResult question tenant plan).Summarized := by
  have headline := headline_eq steps.value
  have points : (a.toResult question tenant plan).series.map (·.value) =
      s.current.map (·.value) := by
    rw [toResult, List.map_map, steps.series]
    rfl
  rw [← points] at headline
  have empty : (a.toResult question tenant plan).series = [] → a.value = .zero := by
    intro none
    rw [headline, none, List.map_nil, Rollup.round_rolled_nil]
  rcases steps.summary with ⟨single, none, noChange, noPercent⟩ |
    ⟨previous, comparing, some, change, percent⟩
  · refine ⟨headline, empty, iff_of_true none single, iff_of_true noChange single,
      iff_of_true noPercent (Or.inl single), ?_⟩
    intro previous change some
    cases none.symm.trans some
  · have compares : ¬ plan.comparing = false := by simp [comparing]
    refine ⟨headline, empty, iff_of_false ?_ compares, iff_of_false ?_ compares, ?_, ?_⟩
    · simp [toResult, some]
    · simp [toResult, change]
    · simp [toResult, comparing, some, percent]
    · intro previous' change' some' change''
      cases some.symm.trans some'
      cases change.symm.trans change''
      refine ⟨rfl, ?_⟩
      intro x found
      have same := percent.symm.trans found
      split at same
      · cases same
      · exact (Option.some.inj same).symm

theorem Steps.tabulated (steps : Steps plan s a) (question tenant : String)
    (values : ∀ row ∈ a.table, row.value.isNan = false)
    (deltas : ∀ row ∈ a.attribution, row.delta.isNan = false) :
    (a.toResult question tenant plan).Tabulated := by
  obtain ⟨unattributed, attributed, delta, order⟩ := steps.attributed
  obtain ⟨ofTable, ofAttribution⟩ := steps.labels
  refine ⟨?_, ?_, ?_, ?_, ?_, ?_⟩
  · intro ungrouped
    have tabled := steps.table
    have none : plan.groups = [] := Plan.groups_nil ungrouped
    rw [none, TableRow.ofSeries_nil] at tabled
    rw [toResult, ← Except.ok.inj tabled, List.map_nil]
  · apply Fields.pairwise_descends TableRow.get?_toFields
    exact TableRow.pairwise_of_ofSeries steps.table values
  · intro cause
    rw [toResult, unattributed cause, List.map_nil]
  · intro comparing grouped
    have table := Fields.map_group (fun row mem => TableRow.group_toFields (ofTable row mem))
      TableRow.get?_toFields
    have attribution := Fields.map_group
      (fun row mem => AttributionRow.group_toFields (ofAttribution row mem))
      (fun row => (AttributionRow.get?_toFields row).1)
    rw [toResult, table, attribution]
    exact (attributed comparing grouped).map _
  · intro row mem
    obtain ⟨group, listed, rfl⟩ := List.mem_map.mp mem
    obtain ⟨current, previous, moved⟩ := AttributionRow.get?_toFields group
    refine ⟨group.current, group.previous, current, previous, ?_⟩
    rw [moved, delta group listed]
  · apply Fields.pairwise_descends fun row => (AttributionRow.get?_toFields row).2.2
    exact order deltas

theorem confidenceOf_eq {α : Type} (plan : Plan) (attribution : List (AttributionRow α)) :
    (confidenceOf plan attribution = .low ↔ plan.breakdowns ≠ [] ∧ attribution = []) ∧
      (confidenceOf plan attribution ≠ .low → confidenceOf plan attribution = .high) := by
  unfold confidenceOf
  cases plan.breakdowns <;> cases attribution <;> simp

end Analysis

namespace Execution

/-- The parts of an executed plan hang together, if its numbers are numbers. -/
theorem consistent_of_execute {source : Source} {question tenant : String} {plan : Plan}
    {today : Date} {r : Result} (done : execute source question tenant plan today = .done r)
    (numbers : ∀ x ∈ r.numbers, x.isNan = false) : r.plan = plan ∧ r.Consistent := by
  obtain ⟨s, a, made, rfl⟩ := exists_analysis done
  have steps := Analysis.steps_of_ofSeries made
  have values : ∀ row ∈ a.table, row.value.isNan = false := by
    intro row mem
    apply numbers
    exact Result.mem_numbers_table (List.mem_map_of_mem mem) List.mem_cons_self
      (TableRow.get?_toFields row)
  have deltas : ∀ row ∈ a.attribution, row.delta.isNan = false := by
    intro row mem
    apply numbers
    exact Result.mem_numbers_attribution (List.mem_map_of_mem mem) (by decide)
      (AttributionRow.get?_toFields row).2.2
  have summarized := steps.summarized question tenant
  have tabulated := steps.tabulated question tenant values deltas
  obtain ⟨low, high⟩ := Analysis.confidenceOf_eq plan a.attribution
  rw [← steps.confidence] at low high
  refine ⟨rfl, { summarized, tabulated with low := ?_, high := high }⟩
  rw [Analysis.toResult, low, List.map_eq_nil_iff]

/-! ### Two days of users -/

/-- The users of a day by country, against the day before. -/
def usersByCountry : Plan :=
  ⟨"all", .dau, .day, 1, [.country], .previousPeriod, ["trend"], [], .short⟩

def lastOfFebruary : Date := ⟨739310, by decide, by decide⟩

def usersOn (day : String) (labels : Fields) (users : Nat) : Fields :=
  ("date", .str day) :: ("value", .nat users) :: labels

/-- A hundred users on the last of February, most of them in the US, and fifty the day before. -/
def twoDays : Source := fun q =>
  .rows <| match q.window.stop == lastOfFebruary, q.breakdowns.isEmpty with
  | true, true => [usersOn "2025-02-28" [] 100]
  | true, false => [usersOn "2025-02-28" [("country", .str "DE")] 45,
      usersOn "2025-02-28" [("country", .str "US")] 55]
  | false, true => [usersOn "2025-02-27" [] 50]
  | false, false => [usersOn "2025-02-27" [("country", .str "US")] 40,
      usersOn "2025-02-27" [("country", .str "DE")] 10]

/-- The countries of rows. -/
def countries (rows : List Fields) : List String :=
  rows.map fun row => (Value.getD row "country").text

theorem execute_twoDays : ∃ r,
    execute twoDays "users by country" "game-1" usersByCountry lastOfFebruary = .done r ∧
      (∀ x ∈ r.numbers, x.isFinite = true) ∧ countries r.table = ["US", "DE"] ∧
      countries r.attribution = ["DE", "US"] := by
  have checked : (execute twoDays "users by country" "game-1" usersByCountry
      lastOfFebruary).done?.any (fun r => r.numbers.all (·.isFinite) &&
        (countries r.table == ["US", "DE"] && countries r.attribution == ["DE", "US"])) = true := by
    simp only [execute, Analysis.ofSeries, TableRow.ofSeries, TableRow.ranked,
      AttributionRow.ofTables, AttributionRow.ranked, Quantity.descending,
      Sorting.mergeSort_eq_byHalves]
    decide +kernel
  obtain ⟨r, found, all⟩ := (Option.any_eq_true _ _).mp checked
  rw [Bool.and_eq_true, Bool.and_eq_true, List.all_eq_true, beq_iff_eq, beq_iff_eq] at all
  exact ⟨r, Outcome.eq_done found, all⟩

/-- The country with more users stands first in the table, the one that gained more in the
attribution. -/
theorem consistent_twoDays : ∃ r,
    execute twoDays "users by country" "game-1" usersByCountry lastOfFebruary = .done r ∧
      (∀ x ∈ r.numbers, x.isNan = false) ∧ r.plan = usersByCountry ∧ r.Consistent ∧
      countries r.table = ["US", "DE"] ∧ countries r.attribution = ["DE", "US"] := by
  obtain ⟨r, done, finite, table, attribution⟩ := execute_twoDays
  have numbers : ∀ x ∈ r.numbers, x.isNan = false := fun x mem =>
    Double.isNan_of_isFinite (finite x mem)
  obtain ⟨plan, consistent⟩ := consistent_of_execute done numbers
  exact ⟨r, done, numbers, plan, consistent, table, attribution⟩

end Execution
end MetricDesk
