import MetricDesk.Proofs.Analysis.Consistency
import MetricDesk.Proofs.Analysis.Joining
import MetricDesk.Proofs.Analysis.Totality
import MetricDesk.Proofs.Series.Reordering

/-! Analyses whatever the order of the rows that are fetched for them. Main statements:
`TableRow.exists_of_perm` and `AttributionRow.exists_of_perm`, a table has the same rows whatever
the order of those it is made of, and so has an attribution; and `Execution.analysis_reordered`,
over exact numbers the same summary comes of the rows of each fetch in any order. -/
namespace MetricDesk

/-- Fractions fail at a zero divisor only. -/
theorem Quantity.total_ofRat : Quantity.Total ℚ where
  add _ _ := .ok _
  sub _ _ := .ok _
  mul _ _ := .ok _
  div x y nonzero := by
    have other : ¬ y = 0 := of_decide_eq_false (Except.ok.inj nonzero)
    exact ⟨x / y, if_neg other⟩
  isZero _ := .ok _
  lt _ _ := .ok _
  round _ _ := .ok _
  count n some := by
    have other : ¬ (n : ℚ) = 0 := Nat.cast_ne_zero.mpr (by omega)
    exact congrArg Except.ok (decide_eq_false other)

theorem Rollup.exactly_of_perm (how : Rollup) {values others : List ℚ} (perm : values.Perm others) :
    how.exactly values = how.exactly others := by
  cases how with
  | sum => exact perm.sum_eq
  | mean => rw [exactly, exactly, perm.sum_eq, perm.length_eq]

/-! ### Groups -/

/-- Strings are told apart by their texts, so rows of one group are shown alike. -/
theorem SeriesRow.shown_of_group {α : Type} {breakdowns : List String} {row other : SeriesRow α}
    (worded : row.labels.Worded) (otherWorded : other.labels.Worded)
    (same : row.group breakdowns = other.group breakdowns) :
    row.shown breakdowns = other.shown breakdowns := by
  apply congrArg Fields.ofEntries
  apply List.map_congr_left
  intro b mem
  have text : (row.label b).text = (other.label b).text := List.map_inj_left.mp same b mem
  obtain ⟨s, found⟩ := worded.label b
  obtain ⟨t, otherFound⟩ := otherWorded.label b
  rw [SeriesRow.label, SeriesRow.label, found, otherFound] at text ⊢
  rw [show s = t from text]

variable {breakdowns : List String} {rows others : List (SeriesRow ℚ)}

/-- What a group comes to does not hang on the order of the rows. -/
theorem Bucket.exists_rolled_of_perm (how : Rollup) (perm : rows.Perm others)
    (worded : ∀ row ∈ rows, row.labels.Worded) {b : Bucket ℚ}
    (mem : b ∈ ofRows breakdowns rows) :
    ∃ c ∈ ofRows breakdowns others, c.rolled how = b.rolled how := by
  have collected := collected_ofRows breakdowns rows
  have again := collected_ofRows breakdowns others
  have appears : b.key ∈ Series.groups breakdowns others :=
    (perm.map _).mem_iff.mp ((collected.keys b.key).mp (List.mem_map_of_mem mem))
  obtain ⟨c, listed, key⟩ := List.mem_map.mp ((again.keys b.key).mpr appears)
  have values : how.exactly c.values = how.exactly b.values := by
    rw [again.values c listed, collected.values b mem, key]
    exact how.exactly_of_perm ((perm.symm.filter _).map _)
  have labels : c.labels = b.labels := by
    obtain ⟨row, first, shown⟩ := collected.labels b mem
    obtain ⟨other, firstAgain, shownAgain⟩ := again.labels c listed
    obtain ⟨there, group⟩ := List.mem_filter.mp (List.mem_of_mem_head? first)
    obtain ⟨otherThere, otherGroup⟩ := List.mem_filter.mp (List.mem_of_mem_head? firstAgain)
    rw [shown, shownAgain]
    apply SeriesRow.shown_of_group (worded other (perm.mem_iff.mpr otherThere)) (worded row there)
    rw [of_decide_eq_true group, of_decide_eq_true otherGroup, key]
  exact ⟨c, listed, by rw [rolled, rolled, values, labels]⟩

/-- A table of the same rows in another order has the same groups. -/
theorem TableRow.exists_of_perm (how : Rollup) (breakdowns : List String) (perm : rows.Perm others)
    (worded : ∀ row ∈ rows, row.labels.Worded) :
    ∃ table again, ofSeries how breakdowns rows = .ok table ∧
      ofSeries how breakdowns others = .ok again ∧ table.Perm again ∧
      (groups breakdowns table).Nodup := by
  by_cases none : breakdowns = []
  · subst none
    exact ⟨[], [], rfl, rfl, .refl _, List.nodup_nil⟩
  · have wordedAgain : ∀ row ∈ others, row.labels.Worded :=
      fun row mem => worded row (perm.mem_iff.mpr mem)
    obtain ⟨table, tabled, made, -⟩ := exists_ofSeries how none rows
    obtain ⟨again, tabledAgain, madeAgain, -⟩ := exists_ofSeries how none others
    have once (rows : List (SeriesRow ℚ)) :
        ((Bucket.ofRows breakdowns rows).map (·.rolled how)).Nodup :=
      (once_of_perm (.refl _)).of_map
    have same : ((Bucket.ofRows breakdowns rows).map (·.rolled how)).Perm
        ((Bucket.ofRows breakdowns others).map (·.rolled how)) := by
      rw [List.perm_ext_iff_of_nodup (once rows) (once others)]
      intro row
      constructor
      · intro mem
        obtain ⟨b, bucket, rfl⟩ := List.mem_map.mp mem
        obtain ⟨c, listed, rolled⟩ := Bucket.exists_rolled_of_perm how perm worded bucket
        exact List.mem_map.mpr ⟨c, listed, rolled⟩
      · intro mem
        obtain ⟨b, bucket, rfl⟩ := List.mem_map.mp mem
        obtain ⟨c, listed, rolled⟩ := Bucket.exists_rolled_of_perm how perm.symm wordedAgain bucket
        exact List.mem_map.mpr ⟨c, listed, rolled⟩
    exact ⟨table, again, tabled, tabledAgain, made.trans (same.trans madeAgain.symm),
      once_of_perm made⟩

/-- An attribution between the same tables in another order has the same rows. -/
theorem AttributionRow.exists_of_perm {table again earlier earlierAgain : List (TableRow ℚ)}
    (perm : table.Perm again) (permEarlier : earlier.Perm earlierAgain)
    (once : (TableRow.groups breakdowns earlier).Nodup) :
    ∃ out outAgain, ofTables breakdowns table earlier = .ok out ∧
      ofTables breakdowns again earlierAgain = .ok outAgain ∧ out.Perm outAgain := by
  by_cases none : breakdowns = []
  · subst none
    exact ⟨[], [], rfl, rfl, .refl _⟩
  · have valued (key : List String) :
        valueOf breakdowns earlier key = valueOf breakdowns earlierAgain key := by
      rw [valueOf_eq, valueOf_eq, TableRow.ofGroup, TableRow.ofGroup,
        filter_key_eq_of_perm (TableRow.group breakdowns) permEarlier once]
    have same : joined breakdowns earlier = joined breakdowns earlierAgain := by
      funext row
      rw [joined, joined, valued]
    rw [ofTables_eq none, ofTables_eq none, same]
    obtain ⟨out, ranking⟩ := Quantity.succeeds_descending Quantity.total_ofRat
      (fun row : AttributionRow ℚ => Quantity.abs row.delta)
      (table.map (joined breakdowns earlierAgain))
    obtain ⟨outAgain, rankingAgain⟩ := Quantity.succeeds_descending Quantity.total_ofRat
      (fun row : AttributionRow ℚ => Quantity.abs row.delta)
      (again.map (joined breakdowns earlierAgain))
    refine ⟨out, outAgain, ranking, rankingAgain, ?_⟩
    exact (Quantity.perm_of_descending ranking).trans
      ((perm.map _).trans (Quantity.perm_of_descending rankingAgain).symm)

/-! ### Analyses -/

/-- The same series with their rows in another order. -/
structure PlanSeries.Reordered (s t : PlanSeries ℚ) : Prop where
  current : s.current.Perm t.current
  groups : s.groups.Perm t.groups
  previous : s.previous.Perm t.previous
  previousGroups : s.previousGroups.Perm t.previousGroups

namespace Analysis

/-- The same numbers, over the same rows in another order. -/
structure Reordered (a b : Analysis ℚ) : Prop where
  value : a.value = b.value
  previous : a.previous = b.previous
  change : a.change = b.change
  changePercent : a.changePercent = b.changePercent
  confidence : a.confidence = b.confidence
  series : a.series.Perm b.series
  table : a.table.Perm b.table
  attribution : a.attribution.Perm b.attribution

variable {plan : Plan}

theorem headline_of_perm (plan : Plan) (perm : rows.Perm others) :
    headline plan rows = headline plan others := by
  have same := plan.metric.rollup.exactly_of_perm (perm.map (·.value))
  rw [headline, headline, aggregate_exactly, aggregate_exactly, same]

theorem confidenceOf_of_perm (plan : Plan) {out again : List (AttributionRow ℚ)}
    (perm : out.Perm again) : confidenceOf plan out = confidenceOf plan again := by
  rw [confidenceOf, confidenceOf, perm.isEmpty_eq]

/-- What an analysis without a comparison is made of. -/
theorem ofSeries_alone {s : PlanSeries ℚ} {value : ℚ} {table : List (TableRow ℚ)}
    (alone : plan.comparing = false) (headlined : headline plan s.current = .ok value)
    (tabled : TableRow.ofSeries plan.metric.rollup plan.groups s.groups = .ok table) :
    ofSeries plan s = .ok ⟨value, none, none, none, s.current, table, [],
      confidenceOf plan ([] : List (AttributionRow ℚ))⟩ := by
  rw [ofSeries, headlined, tabled]
  simp only [alone]
  rfl

/-- What an analysis with a comparison is made of. -/
theorem ofSeries_comparing {s : PlanSeries ℚ} {value previous change : ℚ} {percent : Option ℚ}
    {table before : List (TableRow ℚ)} {moves : List (AttributionRow ℚ)}
    (comparing : plan.comparing = true) (headlined : headline plan s.current = .ok value)
    (tabled : TableRow.ofSeries plan.metric.rollup plan.groups s.groups = .ok table)
    (headlinedBefore : headline plan s.previous = .ok previous)
    (changed : Quantity.round 2 (value - previous) = .ok change)
    (counted : percentChange change previous = .ok percent)
    (tabledBefore : TableRow.ofSeries plan.metric.rollup plan.groups s.previousGroups = .ok before)
    (attributed : AttributionRow.ofTables plan.groups table before = .ok moves) :
    ofSeries plan s = .ok ⟨value, some previous, some change, percent, s.current, table, moves,
      confidenceOf plan moves⟩ := by
  have difference : Quantity.sub value previous = .ok (value - previous) := rfl
  rw [ofSeries, headlined, tabled]
  simp only [comparing, headlinedBefore, difference, changed, counted, tabledBefore, attributed,
    bind, Except.bind, pure, Except.pure, if_true]

/-- Series with their rows in another order have the same summary and the same rows. -/
theorem exists_of_reordered (plan : Plan) {s t : PlanSeries ℚ} (same : s.Reordered t)
    (worded : ∀ row ∈ s.groups, row.labels.Worded)
    (wordedBefore : ∀ row ∈ s.previousGroups, row.labels.Worded) :
    ∃ a b, ofSeries plan s = .ok a ∧ ofSeries plan t = .ok b ∧ a.Reordered b ∧
      a.series = s.current ∧ b.series = t.current := by
  obtain ⟨value, headlined⟩ := succeeds_headline Quantity.total_ofRat plan s.current
  have headlinedAgain := (headline_of_perm plan same.current).symm.trans headlined
  obtain ⟨table, again, tabled, tabledAgain, permTable, -⟩ :=
    TableRow.exists_of_perm plan.metric.rollup plan.groups same.groups worded
  cases comparing : plan.comparing with
  | false =>
    refine ⟨_, _, ofSeries_alone comparing headlined tabled,
      ofSeries_alone comparing headlinedAgain tabledAgain, ?_, rfl, rfl⟩
    exact ⟨rfl, rfl, rfl, rfl, rfl, same.current, permTable, .refl _⟩
  | true =>
    obtain ⟨previous, headlinedBefore⟩ := succeeds_headline Quantity.total_ofRat plan s.previous
    have headlinedBeforeAgain := (headline_of_perm plan same.previous).symm.trans headlinedBefore
    obtain ⟨change, changed⟩ := Quantity.total_ofRat.round 2 (value - previous)
    obtain ⟨percent, counted⟩ := succeeds_percentChange Quantity.total_ofRat change previous
    obtain ⟨before, beforeAgain, tabledBefore, tabledBeforeAgain, permBefore, once⟩ :=
      TableRow.exists_of_perm plan.metric.rollup plan.groups same.previousGroups wordedBefore
    obtain ⟨moves, movesAgain, attributed, attributedAgain, permMoves⟩ :=
      AttributionRow.exists_of_perm permTable permBefore once
    refine ⟨_, _, ofSeries_comparing comparing headlined tabled headlinedBefore changed counted
        tabledBefore attributed,
      ofSeries_comparing comparing headlinedAgain tabledAgain headlinedBeforeAgain changed counted
        tabledBeforeAgain attributedAgain, ?_, rfl, rfl⟩
    exact ⟨rfl, rfl, rfl, rfl, confidenceOf_of_perm plan permMoves, same.current, permTable,
      permMoves⟩

end Analysis

namespace Execution

/-- What is fetched for the recipes of a plan, list by list in the order of their needs. -/
structure Fetched (α : Type) where
  current : List (List (SeriesRow α))
  groups : List (List (SeriesRow α))
  previous : List (List (SeriesRow α))
  previousGroups : List (List (SeriesRow α))

/-- The rows made of what is fetched for a recipe; without one there are none. -/
def rowsOf {α : Type} [Quantity α] (recipe : Option Recipe) (fetched : List (List (SeriesRow α))) :
    Except Failure (List (SeriesRow α)) :=
  match recipe with
  | some a => a.make fetched
  | none => .ok []

namespace Fetched

section
variable {α : Type} [Quantity α]

def series (r : Recipes) (f : Fetched α) : Except Failure (PlanSeries α) := do
  return ⟨← rowsOf r.current f.current, ← rowsOf r.groups f.groups,
    ← rowsOf r.previous f.previous, ← rowsOf r.previousGroups f.previousGroups⟩

/-- The analysis of a plan from what is fetched for it. -/
def analysis (plan : Plan) (r : Recipes) (f : Fetched α) : Except Failure (Analysis α) := do
  Analysis.ofSeries plan (← f.series r)

end

/-- Each list is what its query brings. -/
structure Brought (r : Recipes) (f : Fetched ℚ) : Prop where
  current : ∀ a ∈ r.current, List.Forall₂ Query.Brings a.needs f.current
  groups : ∀ a ∈ r.groups, List.Forall₂ Query.Brings a.needs f.groups
  previous : ∀ a ∈ r.previous, List.Forall₂ Query.Brings a.needs f.previous
  previousGroups : ∀ a ∈ r.previousGroups, List.Forall₂ Query.Brings a.needs f.previousGroups

/-- The same lists, each with its rows in another order. -/
structure Reordered (f g : Fetched ℚ) : Prop where
  current : List.Forall₂ List.Perm f.current g.current
  groups : List.Forall₂ List.Perm f.groups g.groups
  previous : List.Forall₂ List.Perm f.previous g.previous
  previousGroups : List.Forall₂ List.Perm f.previousGroups g.previousGroups

/-- The lists that a source answers with. -/
structure From (source : Source) (r : Recipes) (f : Fetched Double) : Prop where
  current : ∀ a ∈ r.current, Outcome.all (a.needs.map (Query.fetch source)) = .done f.current
  groups : ∀ a ∈ r.groups, Outcome.all (a.needs.map (Query.fetch source)) = .done f.groups
  previous : ∀ a ∈ r.previous, Outcome.all (a.needs.map (Query.fetch source)) = .done f.previous
  previousGroups : ∀ a ∈ r.previousGroups,
    Outcome.all (a.needs.map (Query.fetch source)) = .done f.previousGroups

end Fetched

/-- Whatever the order of what is fetched for a recipe, its rows are the same in some order. -/
theorem rowsOf_of_perm {recipe : Option Recipe} {metric : String}
    (made : ∀ a ∈ recipe, ∃ q, Recipe.of q = .ok a ∧ q.metric = metric)
    {fetched again : List (List (SeriesRow ℚ))}
    (brings : ∀ a ∈ recipe, List.Forall₂ Query.Brings a.needs fetched)
    (perm : List.Forall₂ List.Perm fetched again) :
    ∃ rows others, rowsOf recipe fetched = .ok rows ∧ rowsOf recipe again = .ok others ∧
      rows.Perm others ∧ (∀ row ∈ rows, Fields.Worded row.labels) ∧
      (metric = Metric.arpdau.name → rows = others) := by
  cases recipe with
  | none => exact ⟨[], [], rfl, rfl, .refl _, by rintro row ⟨⟩, fun _ => rfl⟩
  | some a =>
    obtain ⟨q, ofQuery, rfl⟩ := made a rfl
    exact Recipe.make_of_perm ofQuery (brings a rfl) perm

theorem series_of_from {source : Source} {recipe : Option Recipe}
    {fetched : List (List (SeriesRow Double))}
    (answered : ∀ a ∈ recipe, Outcome.all (a.needs.map (Query.fetch source)) = .done fetched) :
    series source recipe = .ofExcept (rowsOf recipe fetched) := by
  cases recipe with
  | none => rfl
  | some a =>
    rw [series, Recipe.resolve, answered a rfl]
    rfl

variable {plan : Plan} {tenant : String} {w : Windows}

/-- Every recipe of a plan is that of a query for its metric. -/
theorem exists_query (plan : Plan) (tenant : String) (w : Windows) {recipe : Option Recipe}
    (listed : recipe ∈ [(recipes plan tenant w).current, (recipes plan tenant w).groups,
      (recipes plan tenant w).previous, (recipes plan tenant w).previousGroups]) :
    ∀ a ∈ recipe, ∃ q, Recipe.of q = .ok a ∧ q.metric = plan.metric.name := by
  intro a found
  obtain ⟨v, -, groups, -, made⟩ := mem_recipes (Recipes.mem_toList listed found)
  exact ⟨query plan tenant groups v, made, rfl⟩

/-- The series made of lists in another order have their rows in another order. -/
theorem Fetched.series_of_reordered {f g : Fetched ℚ} (brought : f.Brought (recipes plan tenant w))
    (reordered : f.Reordered g) :
    ∃ s t, f.series (recipes plan tenant w) = .ok s ∧ g.series (recipes plan tenant w) = .ok t ∧
      s.Reordered t ∧ (∀ row ∈ s.groups, Fields.Worded row.labels) ∧
      (∀ row ∈ s.previousGroups, Fields.Worded row.labels) ∧
      (plan.metric = .arpdau → s.current = t.current) := by
  obtain ⟨current, again, made, madeAgain, perm, -, same⟩ :=
    rowsOf_of_perm (exists_query plan tenant w (by simp)) brought.current reordered.current
  obtain ⟨groups, groupsAgain, grouped, groupedAgain, permGroups, worded, -⟩ :=
    rowsOf_of_perm (exists_query plan tenant w (by simp)) brought.groups reordered.groups
  obtain ⟨previous, previousAgain, before, beforeAgain, permPrevious, -, -⟩ :=
    rowsOf_of_perm (exists_query plan tenant w (by simp)) brought.previous reordered.previous
  obtain ⟨earlier, earlierAgain, groupedBefore, groupedBeforeAgain, permEarlier, wordedBefore, -⟩ :=
    rowsOf_of_perm (exists_query plan tenant w (by simp)) brought.previousGroups
      reordered.previousGroups
  refine ⟨⟨current, groups, previous, earlier⟩,
    ⟨again, groupsAgain, previousAgain, earlierAgain⟩, ?_, ?_,
    ⟨perm, permGroups, permPrevious, permEarlier⟩, worded, wordedBefore, ?_⟩
  · rw [series, made, grouped, before, groupedBefore]
    rfl
  · rw [series, madeAgain, groupedAgain, beforeAgain, groupedBeforeAgain]
    rfl
  · intro perUser
    exact same (congrArg Metric.name perUser)

/-- What a source answers with is the series that an execution fetches. -/
theorem fetch_of_from {source : Source} {r : Recipes} {f : Fetched Double}
    (answered : f.From source r) : ∃ s, f.series r = .ok s ∧ fetch source r = .done s := by
  have each : ∀ a ∈ r.toList, ∃ rows, a.resolve source = .done rows := by
    intro a listed
    have answers : ∃ fetched, Outcome.all (a.needs.map (Query.fetch source)) = .done fetched := by
      obtain ⟨recipe, one, found⟩ := List.mem_filterMap.mp listed
      simp only [List.mem_cons, List.not_mem_nil, or_false] at one
      rcases one with rfl | rfl | rfl | rfl
      · exact ⟨_, answered.current a found⟩
      · exact ⟨_, answered.groups a found⟩
      · exact ⟨_, answered.previous a found⟩
      · exact ⟨_, answered.previousGroups a found⟩
    exact Outcome.exists_andThen answers (Recipe.succeeds_make Double.total a)
  obtain ⟨s, fetched⟩ := exists_fetch each
  obtain ⟨current, groups, previous, previousGroups⟩ := of_fetch fetched
  rw [series_of_from answered.current] at current
  rw [series_of_from answered.groups] at groups
  rw [series_of_from answered.previous] at previous
  rw [series_of_from answered.previousGroups] at previousGroups
  refine ⟨s, ?_, fetched⟩
  rw [Fetched.series, Outcome.of_ofExcept current, Outcome.of_ofExcept groups,
    Outcome.of_ofExcept previous, Outcome.of_ofExcept previousGroups]
  rfl

/-- Over exact numbers an analysis has the same summary and confidence and the same rows, whatever
the order of the rows that are fetched for it, and for revenue per user its series is the same list.
An execution is that analysis in doubles, of what its source answers with. -/
theorem analysis_reordered (plan : Plan) (tenant : String) (w : Windows) :
    (∀ f g : Fetched ℚ, f.Brought (recipes plan tenant w) → f.Reordered g →
      ∃ a b, f.analysis plan (recipes plan tenant w) = .ok a ∧
        g.analysis plan (recipes plan tenant w) = .ok b ∧ a.Reordered b ∧
        (plan.metric = .arpdau → a.series = b.series)) ∧
    ∀ (source : Source) (question : String) (today : Date) (f : Fetched Double),
      windows plan today = .ok w → f.From source (recipes plan tenant w) →
      execute source question tenant plan today = .ofExcept do
        return (← f.analysis plan (recipes plan tenant w)).toResult question tenant plan := by
  constructor
  · intro f g brought reordered
    obtain ⟨s, t, made, madeAgain, same, worded, wordedBefore, level⟩ :=
      Fetched.series_of_reordered brought reordered
    obtain ⟨a, b, analysed, analysedAgain, alike, series, seriesAgain⟩ :=
      Analysis.exists_of_reordered plan same worded wordedBefore
    refine ⟨a, b, ?_, ?_, alike, ?_⟩
    · rw [Fetched.analysis, made]
      exact analysed
    · rw [Fetched.analysis, madeAgain]
      exact analysedAgain
    · intro perUser
      rw [series, seriesAgain, level perUser]
  · intro source question today f found answered
    obtain ⟨s, made, fetched⟩ := fetch_of_from answered
    rw [execute, found, Fetched.analysis, made]
    simp only [fetched]
    rfl

/-- Revenue per user by country on two days, against the two days before. -/
def perUserByCountry : Plan :=
  ⟨"all", .arpdau, .day, 2, [.country], .previousPeriod, [], [], .short⟩

/-- The first two days of March and the last two of February. -/
def perUserWindows : Windows where
  current := ⟨Recipe.firstOfMarch.window.start, Recipe.secondOfMarch⟩
  previous := some ⟨⟨739309, by decide, by decide⟩, lastOfFebruary⟩

/-- Revenue and users of days that come in no order, and the days before. -/
def unordered : Fetched ℚ where
  current := [Recipe.takings, Recipe.dailyUsers]
  groups := [Recipe.takings, Recipe.dailyUsers]
  previous := [[⟨"2025-02-27", [], 6⟩], [⟨"2025-02-28", [], 1⟩, ⟨"2025-02-27", [], 4⟩]]
  previousGroups := [[⟨"2025-02-27", [], 6⟩], [⟨"2025-02-28", [], 1⟩, ⟨"2025-02-27", [], 4⟩]]

/-- The same from the last row to the first. -/
def backToFront : Fetched ℚ where
  current := unordered.current.map List.reverse
  groups := unordered.groups.map List.reverse
  previous := unordered.previous.map List.reverse
  previousGroups := unordered.previousGroups.map List.reverse

/-- What a source has at noon of any day. -/
def atNoon : Fetched Double :=
  let both : List (List (SeriesRow Double)) :=
    [[⟨"2025-03-02", [], .ofInt 9⟩, ⟨"2025-03-01", [], .zero⟩],
      [⟨"2025-03-02", [], .ofInt 2⟩, ⟨"2025-03-01", [], .ofInt 4⟩]]
  ⟨both, both, both, both⟩

theorem perUser_reordered :
    unordered.Brought (recipes perUserByCountry "game-1" perUserWindows) ∧
      unordered.Reordered backToFront ∧
      windows perUserByCountry Recipe.secondOfMarch = .ok perUserWindows ∧
      atNoon.From Recipe.noon (recipes perUserByCountry "game-1" perUserWindows) ∧
      (∃ a b, unordered.analysis perUserByCountry
          (recipes perUserByCountry "game-1" perUserWindows) = .ok a ∧
        backToFront.analysis perUserByCountry
          (recipes perUserByCountry "game-1" perUserWindows) = .ok b ∧
        a.Reordered b ∧ a.series = b.series) ∧
      execute Recipe.noon "" "game-1" perUserByCountry Recipe.secondOfMarch = .ofExcept do
        return (← atNoon.analysis perUserByCountry
          (recipes perUserByCountry "game-1" perUserWindows)).toResult "" "game-1"
            perUserByCountry := by
  have bare {q : Query} {rows : List (SeriesRow ℚ)} (labels : ∀ row ∈ rows, row.labels = [])
      (single : (rows.map (·.day)).Nodup) : q.Brings rows := by
    refine ⟨?_, fun _ => single⟩
    intro row mem
    rw [labels row mem]
    rintro f ⟨⟩
  have brought : unordered.Brought (recipes perUserByCountry "game-1" perUserWindows) := by
    constructor
    all_goals
      rintro a ⟨⟩
      exact .cons (bare (by decide) (by decide)) (.cons (bare (by decide) (by decide)) .nil)
  have turned (lists : List (List (SeriesRow ℚ))) :
      List.Forall₂ List.Perm lists (lists.map List.reverse) := by
    rw [List.forall₂_map_right_iff]
    exact List.forall₂_same.mpr fun rows _ => rows.reverse_perm.symm
  have reordered : unordered.Reordered backToFront := ⟨turned _, turned _, turned _, turned _⟩
  have found : windows perUserByCountry Recipe.secondOfMarch = .ok perUserWindows := by rfl
  have revenue {q : Query} (metric : q.metric = Metric.revenue.name) (whole : q.breakdowns = []) :
      q.fetch Recipe.noon = .done [⟨"2025-03-02", [], .ofInt 9⟩, ⟨"2025-03-01", [], .zero⟩] := by
    apply Query.fetch_eq_done
    · rw [Recipe.noon, if_pos metric]
    · rw [whole]
      exact Recipe.mapM_noonRevenue
  have users {q : Query} (metric : q.metric = Metric.dau.name) (whole : q.breakdowns = []) :
      q.fetch Recipe.noon = .done [⟨"2025-03-02", [], .ofInt 2⟩, ⟨"2025-03-01", [], .ofInt 4⟩] := by
    apply Query.fetch_eq_done
    · rw [Recipe.noon, metric]
    · rw [whole]
      exact Recipe.mapM_noonUsers
  have answered :
      atNoon.From Recipe.noon (recipes perUserByCountry "game-1" perUserWindows) := by
    constructor
    all_goals
      rintro a ⟨⟩
      rw [Recipe.needs, List.map_cons, List.map_cons, List.map_nil, revenue rfl rfl, users rfl rfl]
      rfl
  obtain ⟨same, executed⟩ := analysis_reordered perUserByCountry "game-1" perUserWindows
  obtain ⟨a, b, analysed, analysedAgain, alike, level⟩ :=
    same unordered backToFront brought reordered
  exact ⟨brought, reordered, found, answered, ⟨a, b, analysed, analysedAgain, alike, level rfl⟩,
    executed Recipe.noon "" Recipe.secondOfMarch atNoon found answered⟩

end Execution
end MetricDesk
