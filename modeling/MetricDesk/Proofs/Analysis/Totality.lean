import MetricDesk.Proofs.Analysis.Execution
import MetricDesk.Proofs.Number.Whole
import MetricDesk.Proofs.Plan.Validity
import MetricDesk.Proofs.Sorting.Naturality

/-! Analyses come to a result. Main statements: `Analysis.succeeds_ofSeries`, an analysis fails only
where its arithmetic fails at something other than a zero divisor, since none of its divisors is
zero; and `Execution.done_of_measured`, a valid plan comes to a result over every source whose values
are doubles or missing, whatever doubles they are. -/
namespace MetricDesk

variable {α : Type} [Quantity α]

/-- Arithmetic that fails at a zero divisor only, in which no number of items counts as zero. -/
structure Quantity.Total (α : Type) [Quantity α] : Prop where
  add : ∀ x y : α, Succeeds (Quantity.add x y)
  sub : ∀ x y : α, Succeeds (Quantity.sub x y)
  mul : ∀ x y : α, Succeeds (Quantity.mul x y)
  div : ∀ x y : α, Quantity.isZero y = .ok false → Succeeds (Quantity.div x y)
  isZero : ∀ x : α, Succeeds (Quantity.isZero x)
  lt : ∀ x y : α, Succeeds (Quantity.lt x y)
  round : ∀ places, ∀ x : α, Succeeds (Quantity.round places x)
  count : ∀ n, 0 < n → Quantity.isZero (Quantity.ofNat n : α) = .ok false

/-- Doubles are such a quantity: what overflows becomes infinite and what is undefined no number. -/
theorem Double.total : Quantity.Total Double where
  add _ _ := .ok _
  sub _ _ := .ok _
  mul _ _ := .ok _
  div x y nonzero := by
    have other : y.isZero = false := Except.ok.inj nonzero
    refine ⟨x.div y, ?_⟩
    change (if y.isZero then _ else _) = _
    rw [other]
    rfl
  isZero _ := .ok _
  lt _ _ := .ok _
  round _ _ := .ok _
  count n some := congrArg Except.ok (isZero_ofInt some)

/-! ### The divisions -/

/-- What is done unless a divisor is zero may rely on it. -/
theorem Quantity.Total.guarded {β : Type} (total : Quantity.Total α) {divisor : α}
    {instead divided : Except Failure β} (otherwise : Succeeds instead)
    (divides : Quantity.isZero divisor = .ok false → Succeeds divided) :
    Succeeds (do if ← Quantity.isZero divisor then instead else divided) := by
  apply (total.isZero divisor).bind
  rintro (_ | _) tested
  · exact divides tested
  · exact otherwise

/-- The mean of a series or a group: there is one value at least. -/
theorem succeeds_aggregate (total : Quantity.Total α) (how : Rollup) (values : List α) :
    Succeeds (aggregate how values) := by
  unfold aggregate
  split
  · exact .ok _
  · next some =>
    apply (Succeeds.foldlM fun b x _ => total.add b x).bind
    intro sum _
    cases how with
    | sum => exact .ok _
    | mean =>
      apply total.div
      apply total.count
      rw [List.length_pos_iff]
      rintro rfl
      exact some rfl

theorem succeeds_percentChange (total : Quantity.Total α) (change previous : α) :
    Succeeds (percentChange change previous) := by
  apply total.guarded (.ok none)
  intro nonzero
  apply (total.div change previous nonzero).bind
  intro share _
  apply (total.mul share (Quantity.ofNat 100)).bind
  intro percent _
  exact (total.round 2 percent).bind fun _ _ => .ok _

namespace Series

theorem succeeds_portion (total : Quantity.Total α) (whole share all : α) :
    Succeeds (portion whole share all) := by
  apply total.guarded (.ok _)
  intro nonzero
  exact (total.mul whole share).bind fun product _ => total.div product all nonzero

theorem succeeds_ratio (total : Quantity.Total α) (value divisor : α) :
    Succeeds (ratio value divisor) :=
  total.guarded (.ok _) fun nonzero => total.div value divisor nonzero

/-! ### Composed series -/

theorem succeeds_addOn (total : Quantity.Total α) (sums : List (String × α)) (row : SeriesRow α) :
    Succeeds (addOn sums row) := by
  induction sums with
  | nil => exact (total.add _ _).bind fun _ _ => .ok _
  | cons first rest ih =>
    unfold addOn
    split
    · exact (total.add _ _).bind fun _ _ => .ok _
    · exact ih.bind fun _ _ => .ok _

theorem succeeds_apportion (total : Quantity.Total α) (totals shares : List (SeriesRow α)) :
    Succeeds (apportion totals shares) := by
  apply (Succeeds.foldlM fun sums row _ => succeeds_addOn total sums row).bind
  intro sums _
  have each : ∀ row ∈ shares, Succeeds (split? totals sums row) := by
    intro row _
    unfold split?
    split
    · exact (succeeds_portion total _ _ _).bind fun _ _ => .ok _
    · exact .ok _
  exact (Succeeds.filterMapM each).bind fun _ _ => .ok _

theorem succeeds_quotient (total : Quantity.Total α) (values divisors : List (SeriesRow α)) :
    Succeeds (quotient values divisors) := by
  have each : ∀ row ∈ values, Succeeds (divide? divisors row) := by
    intro row _
    unfold divide?
    split
    · exact (succeeds_ratio total _ _).bind fun _ _ => .ok _
    · exact .ok _
  exact (Succeeds.filterMapM each).bind fun _ _ => .ok _

end Series

theorem Recipe.succeeds_make (total : Quantity.Total α) (r : Recipe)
    (fetched : List (List (SeriesRow α))) : Succeeds (r.make fetched) := by
  unfold make
  split
  · exact .ok _
  · exact Series.succeeds_apportion total _ _
  · exact Series.succeeds_quotient total _ _
  · exact .ok _

/-! ### The analysis -/

theorem Quantity.succeeds_descending {β : Type} (total : Quantity.Total α) (key : β → α)
    (items : List β) : Succeeds (descending key items) :=
  succeeds_descending_of_mem fun a _ b _ => total.lt (key a) (key b)

theorem TableRow.succeeds_ofSeries (total : Quantity.Total α) (how : Rollup)
    (breakdowns : List String) (rows : List (SeriesRow α)) :
    Succeeds (ofSeries how breakdowns rows) := by
  unfold ofSeries
  split
  · exact .ok _
  · have each : ∀ b ∈ Bucket.ofRows breakdowns rows,
        Succeeds (do return TableRow.mk b.labels (← aggregate how b.values)) :=
      fun b _ => (succeeds_aggregate total how b.values).bind fun _ _ => .ok _
    exact (Succeeds.mapM each).bind fun _ _ => Quantity.succeeds_descending total _ _

theorem AttributionRow.succeeds_ofTables (total : Quantity.Total α) (breakdowns : List String)
    (current previous : List (TableRow α)) : Succeeds (ofTables breakdowns current previous) := by
  unfold ofTables
  split
  · exact .ok _
  · have each : ∀ row ∈ current, Succeeds (ofRow breakdowns previous row) :=
      fun row _ => (total.sub _ _).bind fun _ _ => .ok _
    exact (Succeeds.mapM each).bind fun _ _ => Quantity.succeeds_descending total _ _

namespace Analysis

theorem succeeds_headline (total : Quantity.Total α) (plan : Plan) (rows : List (SeriesRow α)) :
    Succeeds (headline plan rows) :=
  (succeeds_aggregate total _ _).bind fun value _ => total.round 2 value

theorem succeeds_ofSeries (total : Quantity.Total α) (plan : Plan) (s : PlanSeries α) :
    Succeeds (ofSeries plan s) := by
  apply (succeeds_headline total plan s.current).bind
  intro value _
  apply (TableRow.succeeds_ofSeries total plan.metric.rollup plan.groups s.groups).bind
  intro table _
  split
  · apply (succeeds_headline total plan s.previous).bind
    intro previous _
    apply (total.sub value previous).bind
    intro moved _
    apply (total.round 2 moved).bind
    intro change _
    apply (succeeds_percentChange total change previous).bind
    intro changePercent _
    apply (TableRow.succeeds_ofSeries total plan.metric.rollup plan.groups s.previousGroups).bind
    intro before _
    exact (AttributionRow.succeeds_ofTables total plan.groups table before).bind fun _ _ => .ok _
  · exact .ok _

end Analysis

/-! ### The series of a plan -/

namespace Outcome
variable {β γ : Type}

theorem exists_all {os : List (Outcome β)} (each : ∀ o ∈ os, ∃ a, o = .done a) :
    ∃ as, all os = .done as := by
  induction os with
  | nil => exact ⟨[], rfl⟩
  | cons o rest ih =>
    obtain ⟨⟨a, rfl⟩, others⟩ := List.forall_mem_cons.mp each
    obtain ⟨as, found⟩ := ih others
    exact ⟨a :: as, by rw [all, found]; rfl⟩

theorem exists_andThen {o : Outcome β} {next : β → Except Failure γ} (done : ∃ a, o = .done a)
    (each : ∀ a, Succeeds (next a)) : ∃ b, o.andThen next = .done b := by
  obtain ⟨a, rfl⟩ := done
  obtain ⟨b, made⟩ := each a
  exact ⟨b, by rw [andThen, made]; rfl⟩

end Outcome

/-- A row whose value is a double, null or missing. Its day and its labels may be anything. -/
def Fields.Measured (row : Fields) : Prop :=
  Value.getD row "value" = .null ∨ ∃ x, Value.getD row "value" = .num (.dbl x)

theorem Value.succeeds_measured {v : Value} (h : v = .null ∨ ∃ x, v = .num (.dbl x)) :
    Succeeds v.measured := by
  unfold measured
  split
  · exact .ok _
  · rcases h with rfl | ⟨x, rfl⟩
    · next some => exact absurd rfl some
    · exact .ok x

theorem SeriesRow.succeeds_ofFields (breakdowns : List String) {row : Fields}
    (measured : row.Measured) : Succeeds (ofFields breakdowns row) :=
  (Value.succeeds_measured measured).bind fun _ _ => .ok _

/-- What a source has to answer for its rows to be read. -/
def Source.Measures (source : Source) (q : Query) : Prop :=
  ∃ rows, source q = .rows rows ∧ ∀ row ∈ rows, Fields.Measured row

variable {source : Source}

theorem Query.exists_fetch {q : Query} (measures : source.Measures q) :
    ∃ rows, q.fetch source = .done rows := by
  obtain ⟨answered, found, measured⟩ := measures
  obtain ⟨rows, made⟩ := Succeeds.mapM fun row mem =>
    SeriesRow.succeeds_ofFields q.breakdowns (measured row mem)
  exact ⟨rows, by rw [fetch, found]; exact congrArg Outcome.ofExcept made⟩

theorem Recipe.exists_resolve {r : Recipe} (measures : ∀ q ∈ r.needs, source.Measures q) :
    ∃ rows, r.resolve source = .done rows := by
  apply Outcome.exists_andThen
  · apply Outcome.exists_all
    intro o mem
    obtain ⟨q, needed, rfl⟩ := List.mem_map.mp mem
    exact Query.exists_fetch (measures q needed)
  · exact Recipe.succeeds_make Double.total r

namespace Execution

theorem exists_series (r : Recipes) (recipe : Option Recipe)
    (listed : recipe ∈ [r.current, r.groups, r.previous, r.previousGroups])
    (each : ∀ a ∈ r.toList, ∃ rows, a.resolve source = .done rows) :
    ∃ rows, series source recipe = .done rows := by
  cases found : recipe with
  | none => exact ⟨[], rfl⟩
  | some a => exact each a (Recipes.mem_toList listed found)

theorem exists_fetch {r : Recipes} (each : ∀ a ∈ r.toList, ∃ rows, a.resolve source = .done rows) :
    ∃ s, fetch source r = .done s := by
  have together : ∃ all, Outcome.all ((r.toList.filter (·.isNative)).map (Recipe.resolve source) ++
      (r.toList.filter (!·.isNative)).map (Recipe.resolve source)) = .done all := by
    apply Outcome.exists_all
    rw [← List.map_append]
    intro o mem
    obtain ⟨a, listed, rfl⟩ := List.mem_map.mp mem
    rcases List.mem_append.mp listed with early | late
    · exact each a (List.mem_filter.mp early).1
    · exact each a (List.mem_filter.mp late).1
  obtain ⟨all, together⟩ := together
  obtain ⟨current, foundCurrent⟩ := exists_series r r.current (by simp) each
  obtain ⟨groups, foundGroups⟩ := exists_series r r.groups (by simp) each
  obtain ⟨previous, foundPrevious⟩ := exists_series r r.previous (by simp) each
  obtain ⟨previousGroups, foundPreviousGroups⟩ := exists_series r r.previousGroups (by simp) each
  refine ⟨⟨current, groups, previous, previousGroups⟩, ?_⟩
  simp only [fetch, together, foundCurrent, foundGroups, foundPrevious, foundPreviousGroups]

variable {plan : Plan} {tenant : String} {today : Date}

/-- A valid plan comes to a result wherever the calendar has both of the longest windows, over every
source that answers its queries with doubles or with nothing, be they zero, infinite or no numbers:
no failure is left, and so no division by zero. -/
theorem done_of_measured {candidate : Value} (validated : Plan.validate candidate = .ok plan)
    (room : 7300 ≤ today.ordinal) (measures : ∀ q ∈ queriesOn plan tenant today, source.Measures q)
    (question : String) : ∃ r, execute source question tenant plan today = .done r ∧
      r.question = question ∧ r.tenant = tenant ∧ r.plan = plan := by
  have valid := Plan.valid_of_validate validated
  have both : 2 * plan.days ≤ today.ordinal := by
    have := valid.limited
    have : maxWindowDays = 3650 := rfl
    omega
  obtain ⟨w, found, -⟩ := exists_windows valid.positive both
  have asked : queriesOn plan tenant today = queries plan tenant w := by rw [queriesOn, found]
  rw [asked] at measures
  have resolved : ∀ a ∈ (recipes plan tenant w).toList, ∃ rows, a.resolve source = .done rows := by
    intro a listed
    apply Recipe.exists_resolve
    exact fun q needed => measures q (List.mem_flatMap.mpr ⟨a, listed, needed⟩)
  have analysed (s : PlanSeries Double) : Succeeds (do
      return (← Analysis.ofSeries plan s).toResult question tenant plan) :=
    (Analysis.succeeds_ofSeries Double.total plan s).bind fun _ _ => .ok _
  obtain ⟨r, done⟩ := Outcome.exists_andThen (exists_fetch resolved) analysed
  have executed : execute source question tenant plan today = .done r := by
    rw [execute, found]
    exact done
  exact ⟨r, executed, execute_done executed⟩

/-- Revenue by country over the longest window, against the window before. -/
def longestRevenue : Plan :=
  ⟨"all", .revenue, .day, 3650, [.country], .previousPeriod, [], [], .deep⟩

/-- The first day with room for both windows. -/
def firstWithRoom : Date := ⟨7300, by decide, by decide⟩

/-- Users of a day that cancel each other, an infinite and an undefined number, a negative zero on
no day, and rows without any value. -/
def unruly : Source := fun _ =>
  let row (value : Double) (others : Fields) : Fields := ("value", .dbl value) :: others
  .rows [row (.ofInt 3) [("date", .str "0019-12-26"), ("country", .str "DE")],
    row (.ofInt (-3)) [("date", .str "0019-12-26"), ("country", .null)],
    row (.infinite true) [("date", .day firstWithRoom)], row .nan [("date", .null)],
    row (.zeroOf true) [], [("value", .null)], []]

theorem done_of_unruly : Plan.validate longestRevenue.toValue = .ok longestRevenue ∧
    7300 ≤ firstWithRoom.ordinal ∧
    (∀ q ∈ queriesOn longestRevenue "" firstWithRoom, unruly.Measures q) ∧
    ∃ r, execute unruly "" "" longestRevenue firstWithRoom = .done r ∧
      r.question = "" ∧ r.tenant = "" ∧ r.plan = longestRevenue := by
  have validated : Plan.validate longestRevenue.toValue = .ok longestRevenue := by rfl
  have room : 7300 ≤ firstWithRoom.ordinal := Nat.le_refl _
  have measures : ∀ q ∈ queriesOn longestRevenue "" firstWithRoom, unruly.Measures q := by
    intro q _
    refine ⟨_, rfl, ?_⟩
    simp only [List.forall_mem_cons]
    exact ⟨.inr ⟨_, rfl⟩, .inr ⟨_, rfl⟩, .inr ⟨_, rfl⟩, .inr ⟨_, rfl⟩, .inr ⟨_, rfl⟩, .inl rfl,
      .inl rfl, by rintro row ⟨⟩⟩
  exact ⟨validated, room, measures, done_of_measured validated room measures ""⟩

end Execution
end MetricDesk
