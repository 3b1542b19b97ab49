import MetricDesk.Proofs.Analysis.Execution
import MetricDesk.Proofs.Series.Conservation
import MetricDesk.Proofs.Sorting.MergeSort

/-! Revenue per user. Main statements: `Series.Divided.unique`, a quotient of two series is known by
the rows of each day and by their order; and `Recipe.joins_users`, it is asked for as two totals,
and has one row for each row of revenue whose day has users. -/
namespace MetricDesk
namespace Series

variable {α : Type}

theorem day_le_of_mem_onDay {first row : SeriesRow α} {rows : List (SeriesRow α)} {day : String}
    (ordered : (first :: rows).Pairwise fun row next => row.day ≤ next.day)
    (here : row ∈ onDay (first :: rows) day) : first.day ≤ day := by
  obtain ⟨listed, rfl⟩ := mem_onDay.mp here
  rcases List.mem_cons.mp listed with rfl | mem
  · exact le_refl _
  · exact (List.pairwise_cons.mp ordered).1 row mem

/-- Rows in the order of their days are known by the rows of each day. -/
theorem eq_of_onDay {rows others : List (SeriesRow α)}
    (ordered : rows.Pairwise fun row next => row.day ≤ next.day)
    (othersOrdered : others.Pairwise fun row next => row.day ≤ next.day)
    (same : ∀ day, onDay rows day = onDay others day) : rows = others := by
  have onOwn (row : SeriesRow α) (rest : List (SeriesRow α)) :
      row ∈ onDay (row :: rest) row.day := mem_onDay.mpr ⟨List.mem_cons_self, rfl⟩
  induction rows generalizing others with
  | nil =>
    cases others with
    | nil => rfl
    | cons other others =>
      have none := onOwn other others
      rw [← same] at none
      cases none
  | cons row rows ih =>
    cases others with
    | nil =>
      have none := onOwn row rows
      rw [same] at none
      cases none
    | cons other others =>
      have level : row.day = other.day := by
        apply le_antisymm
        · exact day_le_of_mem_onDay ordered (same other.day ▸ onOwn other others)
        · exact day_le_of_mem_onDay othersOrdered (same row.day ▸ onOwn row rows)
      have front := same row.day
      rw [onDay_cons, onDay_cons, if_pos rfl, if_pos level.symm, List.cons.injEq] at front
      obtain ⟨rfl, -⟩ := front
      have rest : rows = others := by
        apply ih ordered.of_cons othersOrdered.of_cons
        intro day
        have both := same day
        rw [onDay_cons, onDay_cons] at both
        split at both
        · exact (List.cons.inj both).2
        · exact both
      rw [rest]

/-- A series over another one: each row of a day that has a divisor becomes a row with its quotient,
in the order of the days and of the rows of a day. -/
structure Divided (divide : α → α → α) (values divisors out : List (SeriesRow α)) : Prop where
  rows : ∀ divisor ∈ divisors, onDay out divisor.day = (onDay values divisor.day).map fun row =>
    ⟨row.day, [], divide row.value divisor.value⟩
  /-- A day without a divisor has no rows. -/
  both : ∀ row ∈ out, ∃ divisor ∈ divisors, divisor.day = row.day
  ordered : out.Pairwise fun row next => row.day ≤ next.day

section
variable {divide : α → α → α} {values divisors out : List (SeriesRow α)}

theorem Divided.onDay_eq_nil (h : Divided divide values divisors out) {day : String}
    (absent : ∀ divisor ∈ divisors, divisor.day ≠ day) : onDay out day = [] := by
  rw [List.eq_nil_iff_forall_not_mem]
  intro row here
  obtain ⟨listed, rfl⟩ := mem_onDay.mp here
  obtain ⟨divisor, mem, same⟩ := h.both row listed
  exact absent divisor mem same

theorem Divided.labels (h : Divided divide values divisors out) : ∀ row ∈ out, row.labels = [] := by
  intro row mem
  obtain ⟨divisor, listed, same⟩ := h.both row mem
  have here : row ∈ onDay out divisor.day := mem_onDay.mpr ⟨mem, same.symm⟩
  rw [h.rows divisor listed] at here
  obtain ⟨value, -, rfl⟩ := List.mem_map.mp here
  rfl

/-- There is one such series. -/
theorem Divided.unique {other : List (SeriesRow α)} (h : Divided divide values divisors out)
    (again : Divided divide values divisors other) : out = other := by
  apply eq_of_onDay h.ordered again.ordered
  intro day
  by_cases there : ∃ divisor ∈ divisors, divisor.day = day
  · obtain ⟨divisor, mem, rfl⟩ := there
    rw [h.rows divisor mem, again.rows divisor mem]
  · have absent : ∀ divisor ∈ divisors, divisor.day ≠ day :=
      fun divisor mem same => there ⟨divisor, mem, same⟩
    rw [h.onDay_eq_nil absent, again.onDay_eq_nil absent]

/-- What a row becomes over the divisor of its day. -/
def dividedBy (divide : α → α → α) (divisors : List (SeriesRow α)) (row : SeriesRow α) :
    Option (SeriesRow α) :=
  (valueOn divisors row.day).map fun divisor => ⟨row.day, [], divide row.value divisor⟩

theorem onDay_filterMap_dividedBy (single : (divisors.map (·.day)).Nodup) {divisor : SeriesRow α}
    (mem : divisor ∈ divisors) (values : List (SeriesRow α)) :
    onDay (values.filterMap (dividedBy divide divisors)) divisor.day =
      (onDay values divisor.day).map fun row => ⟨row.day, [], divide row.value divisor.value⟩ := by
  apply onDay_filterMap
  · intro row made divides
    obtain ⟨v, -, rfl⟩ := Option.map_eq_some_iff.mp divides
    rfl
  · intro row here
    rw [dividedBy, here, valueOn_of_mem single mem, Option.map_some]

theorem divided_byDay (single : (divisors.map (·.day)).Nodup) (values : List (SeriesRow α)) :
    Divided divide values divisors (byDay (values.filterMap (dividedBy divide divisors))) := by
  refine ⟨?_, ?_, pairwise_byDay _⟩
  · intro divisor mem
    rw [onDay_byDay, onDay_filterMap_dividedBy single mem]
  · intro row mem
    obtain ⟨value, -, divides⟩ := List.mem_filterMap.mp ((perm_byDay _).mem_iff.mp mem)
    obtain ⟨v, valued, rfl⟩ := Option.map_eq_some_iff.mp divides
    obtain ⟨divisor, listed, same, -⟩ := exists_of_valueOn valued
    exact ⟨divisor, listed, same⟩

theorem quotient_eq_ok [Quantity α] (divides : ∀ v d, ratio v d = .ok (divide v d))
    (values divisors : List (SeriesRow α)) :
    quotient values divisors = .ok (byDay (values.filterMap (dividedBy divide divisors))) := by
  have made : values.filterMapM (divide? divisors) =
      .ok (values.filterMap (dividedBy divide divisors)) := by
    apply filterMapM_eq_ok
    intro row _
    unfold divide? dividedBy
    cases valueOn divisors row.day with
    | none => rfl
    | some divisor =>
      simp only [divides]
      rfl
  rw [quotient, made]
  rfl

end

/-! ### Quotients -/

/-- The exact quotient, zero over zero. -/
def exactly (value divisor : ℚ) : ℚ := if divisor = 0 then 0 else value / divisor

/-- The double nearest to the quotient, zero over a zero of either sign. -/
def nearest (value divisor : Double) : Double :=
  if divisor.isZero then .zero else value.div divisor

theorem ratio_exactly (value divisor : ℚ) : ratio value divisor = .ok (exactly value divisor) := by
  have div : Quantity.div value divisor =
      if divisor = 0 then .error (.arithmetic .zeroDoubleDivisor) else .ok (value / divisor) := rfl
  change (if decide (divisor = 0) = true then .ok 0 else Quantity.div value divisor) = _
  rw [div, exactly]
  by_cases nothing : divisor = 0
  · simp [nothing]
  · simp [nothing]

theorem ratio_nearest (value divisor : Double) :
    ratio value divisor = .ok (nearest value divisor) := by
  have div : Quantity.div value divisor = if divisor.isZero then
      .error (.arithmetic .zeroDoubleDivisor) else .ok (value.div divisor) := rfl
  change (if divisor.isZero = true then .ok .zero else Quantity.div value divisor) = _
  rw [div, nearest]
  by_cases nothing : divisor.isZero = true
  · simp [nothing]
  · simp [nothing]

end Series

namespace SeriesRow

/-- Rows with values that can be read come to a series, on the days that they are of. -/
theorem exists_totals {rows : List Fields}
    (readable : ∀ row ∈ rows, Succeeds (Value.getD row "value").measured) :
    ∃ series, rows.mapM (ofFields []) = .ok series ∧
      series.map (·.day) = rows.map fun row => dayText (Value.getD row "date") := by
  obtain ⟨series, made⟩ : Succeeds (rows.mapM (ofFields [])) :=
    Succeeds.mapM fun row mem => (readable row mem).bind fun _ _ => .ok _
  refine ⟨series, made, ?_⟩
  apply map_of_mapM made
  intro row fetched read
  obtain ⟨x, -, read⟩ := exists_of_bind read
  cases read
  rfl

end SeriesRow

theorem Query.fetch_eq_done {source : Source} {q : Query} {answered : List Fields}
    {series : List (SeriesRow Double)} (found : source q = .rows answered)
    (read : answered.mapM (SeriesRow.ofFields q.breakdowns) = .ok series) :
    q.fetch source = .done series := by
  rw [fetch, found]
  exact congrArg Outcome.ofExcept read

namespace Recipe

theorem of_arpdau {q : Query} (metric : q.metric = Metric.arpdau.name) :
    Recipe.of q = .ok (.quotient { q with metric := Metric.revenue.name, breakdowns := [] }
      { q with metric := Metric.dau.name, breakdowns := [] }) := by
  have named : Metric.ofName? q.metric = some .arpdau := by rw [metric]; rfl
  unfold Recipe.of
  simp only [named]

/-- A quotient of two totals that the source has. -/
theorem resolve_quotient {source : Source} {value divisor : Query}
    {values divisors out : List (SeriesRow Double)} (fetched : value.fetch source = .done values)
    (fetchedToo : divisor.fetch source = .done divisors)
    (made : Series.quotient values divisors = .ok out) :
    (Recipe.quotient value divisor).resolve source = .done out ∧
      (Recipe.quotient value divisor).rows source = .done (out.map (·.toComposed .dbl)) := by
  have both : Outcome.all ((Recipe.quotient value divisor).needs.map (Query.fetch source)) =
      .done [values, divisors] := by
    rw [needs, List.map_cons, List.map_cons, List.map_nil, fetched, fetchedToo]
    rfl
  constructor
  · rw [resolve, both]
    exact congrArg Outcome.ofExcept made
  · rw [rows, both]
    change Outcome.ofExcept (Series.quotient values divisors >>= _) = _
    rw [made]
    rfl

/-- Revenue per user, whatever breakdowns the query names, is asked for as two totals and is the
exact quotient of them day by day: see `Series.Divided`. Over a source it comes to rows of a day and
the double nearest to the quotient, in whatever form the source has its days. -/
theorem joins_users (q : Query) (metric : q.metric = Metric.arpdau.name) :
    ∃ r, Recipe.of q = .ok r ∧
      r.needs = [{ q with metric := Metric.revenue.name, breakdowns := [] },
        { q with metric := Metric.dau.name, breakdowns := [] }] ∧
      (∀ revenue users : List (SeriesRow ℚ), (users.map (·.day)).Nodup →
        ∃ out, r.make [revenue, users] = .ok out ∧
          Series.Divided Series.exactly revenue users out) ∧
      ∀ (source : Source) (revenue users : List Fields),
        r.needs.map source = [.rows revenue, .rows users] →
        (∀ row ∈ revenue ++ users, Succeeds (Value.getD row "value").measured) →
        (users.map fun row => dayText (Value.getD row "date")).Nodup →
        ∃ values divisors out, revenue.mapM (SeriesRow.ofFields []) = .ok values ∧
          users.mapM (SeriesRow.ofFields []) = .ok divisors ∧
          Series.Divided Series.nearest values divisors out ∧ r.resolve source = .done out ∧
          r.rows source =
            .done (out.map fun row => [("date", .str row.day), ("value", .dbl row.value)]) := by
  refine ⟨_, of_arpdau metric, rfl, ?_, ?_⟩
  · intro revenue users single
    exact ⟨_, Series.quotient_eq_ok Series.ratio_exactly revenue users,
      Series.divided_byDay single revenue⟩
  · intro source revenue users answered readable single
    obtain ⟨revenueRows, rest⟩ := List.cons.inj answered
    obtain ⟨userRows, -⟩ := List.cons.inj rest
    obtain ⟨values, read, -⟩ := SeriesRow.exists_totals fun row mem =>
      readable row (List.mem_append_left users mem)
    obtain ⟨divisors, readToo, days⟩ := SeriesRow.exists_totals fun row mem =>
      readable row (List.mem_append_right revenue mem)
    rw [← days] at single
    have divided : Series.Divided Series.nearest values divisors _ :=
      Series.divided_byDay single values
    obtain ⟨resolved, rows⟩ := resolve_quotient (Query.fetch_eq_done revenueRows read)
      (Query.fetch_eq_done userRows readToo)
      (Series.quotient_eq_ok Series.ratio_nearest values divisors)
    refine ⟨values, divisors, _, read, readToo, divided, resolved, rows.trans ?_⟩
    apply congrArg Outcome.done
    apply List.map_congr_left
    intro row mem
    rw [SeriesRow.toComposed, divided.labels row mem]
    rfl

/-- Revenue per user over the first days of March, by country. -/
def perUser : Query := { firstOfMarch with metric := Metric.arpdau.name }

/-- Users of three days, on one of which there were none. -/
def dailyUsers : List (SeriesRow ℚ) :=
  [⟨"2025-03-02", [], 3⟩, ⟨"2025-03-03", [], 0⟩, ⟨"2025-03-01", [], 8⟩]

def secondOfMarch : Date := ⟨739312, by decide, by decide⟩

/-- Revenue at noon of a day, and none on the day before. -/
def noonRevenue : List Fields :=
  [[("date", .moment ⟨secondOfMarch, 12, 0, 0, 0, none⟩), ("value", .nat 9)],
    [("date", .day firstOfMarch.window.start), ("value", .null)]]

/-- Users of both days. -/
def noonUsers : List Fields :=
  [[("date", .str "2025-03-02T00:00:00"), ("value", .dbl (.ofInt 2))],
    [("date", .str "2025-03-01"), ("value", .nat 4)]]

def noon : Source := fun q =>
  .rows (if q.metric = Metric.revenue.name then noonRevenue else noonUsers)

theorem mapM_noonRevenue : noonRevenue.mapM (SeriesRow.ofFields []) =
    .ok [⟨"2025-03-02", [], .ofInt 9⟩, ⟨"2025-03-01", [], .zero⟩] := by
  unfold noonRevenue secondOfMarch firstOfMarch
  rfl

theorem mapM_noonUsers : noonUsers.mapM (SeriesRow.ofFields []) =
    .ok [⟨"2025-03-02", [], .ofInt 2⟩, ⟨"2025-03-01", [], .ofInt 4⟩] := by
  rfl

/-- The fourth of March has no users and is left out, and on the third there were none. A moment, a
day and two texts are the same two days. -/
theorem joins_dailyUsers : perUser.metric = Metric.arpdau.name ∧ (dailyUsers.map (·.day)).Nodup ∧
    ∃ r out, Recipe.of perUser = .ok r ∧ r.make [takings, dailyUsers] = .ok out ∧
      out.map (fun row => (row.day, row.value)) =
        [("2025-03-01", 5), ("2025-03-02", 100 / 3), ("2025-03-03", 0)] ∧
      r.needs.map noon = [.rows noonRevenue, .rows noonUsers] ∧
      (∀ row ∈ noonRevenue ++ noonUsers, Succeeds (Value.getD row "value").measured) ∧
      (noonUsers.map fun row => dayText (Value.getD row "date")).Nodup ∧
      r.rows noon = .done [[("date", .str "2025-03-01"), ("value", .dbl .zero)],
        [("date", .str "2025-03-02"), ("value", .dbl (.ofRatio false 9 2))]] := by
  have metric : perUser.metric = Metric.arpdau.name := rfl
  have single : (dailyUsers.map (·.day)).Nodup := by decide
  obtain ⟨r, made, needs, exact, joined⟩ := joins_users perUser metric
  obtain rfl := Except.ok.inj (made.symm.trans (of_arpdau metric))
  obtain ⟨out, composed, -⟩ := exact takings dailyUsers single
  have quotients : out.map (fun row => (row.day, row.value)) =
      [("2025-03-01", 5), ("2025-03-02", 100 / 3), ("2025-03-03", 0)] := by
    have evaluated : (Series.quotient takings dailyUsers).toOption.map
        (List.map fun row => (row.day, row.value)) =
          some [("2025-03-01", 5), ("2025-03-02", 100 / 3), ("2025-03-03", 0)] := by
      simp only [Series.quotient, Series.byDay, Sorting.mergeSort_eq_byHalves]
      decide +kernel
    change Series.quotient takings dailyUsers = .ok out at composed
    rw [composed] at evaluated
    exact Option.some.inj evaluated
  have answered : [{ perUser with metric := Metric.revenue.name, breakdowns := [] },
      { perUser with metric := Metric.dau.name, breakdowns := [] }].map noon =
        [.rows noonRevenue, .rows noonUsers] := rfl
  have readable : ∀ row ∈ noonRevenue ++ noonUsers, Succeeds (Value.getD row "value").measured := by
    simp only [noonRevenue, noonUsers, List.cons_append, List.nil_append, List.forall_mem_cons]
    exact ⟨⟨_, rfl⟩, ⟨_, rfl⟩, ⟨_, rfl⟩, ⟨_, rfl⟩, by rintro row ⟨⟩⟩
  have singleToo : (noonUsers.map fun row => dayText (Value.getD row "date")).Nodup := by
    decide +kernel
  obtain ⟨values, divisors, rows, read, readToo, joins, -, listed⟩ :=
    joined noon noonRevenue noonUsers answered readable singleToo
  refine ⟨metric, single, _, out, made, composed, quotients, answered, readable, singleToo,
    listed.trans ?_⟩
  obtain rfl := Except.ok.inj (read.symm.trans mapM_noonRevenue)
  obtain rfl := Except.ok.inj (readToo.symm.trans mapM_noonUsers)
  have expected : Series.Divided Series.nearest
      [⟨"2025-03-02", [], .ofInt 9⟩, ⟨"2025-03-01", [], .zero⟩]
      [⟨"2025-03-02", [], .ofInt 2⟩, ⟨"2025-03-01", [], .ofInt 4⟩]
      [⟨"2025-03-01", [], .zero⟩, ⟨"2025-03-02", [], .ofRatio false 9 2⟩] := by
    refine ⟨?_, ?_, by decide +kernel⟩
    · simp only [List.forall_mem_cons]
      exact ⟨rfl, rfl, by rintro row ⟨⟩⟩
    · simp only [List.forall_mem_cons]
      exact ⟨⟨_, .tail _ (.head _), rfl⟩, ⟨_, .head _, rfl⟩, by rintro row ⟨⟩⟩
  rw [joins.unique expected]
  rfl

end Recipe
end MetricDesk
