import MetricDesk.Analysis.Execution
import MetricDesk.Proofs.Calendar.Window

/-! What the execution of a plan reads and returns. Main statements: `execute_congr`, an execution
reads nothing of its source but the answers to the plan's queries; `tenant_of_queriesOn`, each of
them is for the tenant; and `execute_done`, the result names what was asked. -/
namespace MetricDesk

namespace Outcome

def done? {α : Type} : Outcome α → Option α
  | .done a => some a
  | _ => none

theorem eq_done {α : Type} {o : Outcome α} {a : α} (h : o.done? = some a) : o = .done a := by
  cases o with
  | done b => cases h; rfl
  | _ => cases h

theorem of_ofExcept {α : Type} {e : Except Failure α} {a : α} (h : ofExcept e = .done a) :
    e = .ok a := by
  cases e with
  | ok b => cases h; rfl
  | error failure => cases h

theorem of_andThen {α β : Type} {o : Outcome α} {f : α → Except Failure β} {b : β}
    (h : o.andThen f = .done b) : ∃ a, o = .done a ∧ f a = .ok b := by
  cases o with
  | done a => exact ⟨a, rfl, of_ofExcept h⟩
  | failed failure => cases h
  | pending => cases h

end Outcome

namespace Recipe

/-- What a recipe needs differs from its query in the metric, and may have no breakdowns. -/
theorem of_needs {q need : Query} {r : Recipe} (made : Recipe.of q = .ok r) (h : need ∈ r.needs) :
    ∃ metric breakdowns, (breakdowns = [] ∨ breakdowns = q.breakdowns) ∧
      need = { q with metric, breakdowns } := by
  unfold Recipe.of at made
  split at made
  · cases made
  · cases made
    simp only [needs, List.mem_cons, List.not_mem_nil, or_false] at h
    rcases h with rfl | rfl <;> exact ⟨_, [], Or.inl rfl, rfl⟩
  · split at made
    · cases made
      rw [List.mem_singleton.mp h]
      exact ⟨_, _, Or.inr rfl, rfl⟩
    · cases made
      simp only [needs, List.mem_cons, List.not_mem_nil, or_false] at h
      rcases h with rfl | rfl
      · exact ⟨_, [], Or.inl rfl, rfl⟩
      · exact ⟨_, _, Or.inr rfl, rfl⟩
  · cases made
    rw [List.mem_singleton.mp h]
    exact ⟨_, _, Or.inr rfl, rfl⟩

theorem resolve_congr {source other : Source} {r : Recipe}
    (agree : ∀ q ∈ r.needs, source q = other q) : r.resolve source = r.resolve other := by
  have fetched : r.needs.map (Query.fetch source) = r.needs.map (Query.fetch other) := by
    apply List.map_congr_left
    intro q h
    rw [Query.fetch, Query.fetch, agree q h]
  rw [resolve, resolve, fetched]

end Recipe

namespace Execution

variable {source other : Source} {question tenant : String} {plan : Plan} {today : Date}

/-- The windows of a plan, by the days that they have. -/
theorem of_windows {w : Windows} (h : windows plan today = .ok w) :
    w.current.IsLast plan.days today ∧
      ∀ v, w.previous = some v → plan.comparing = true ∧ v.IsBefore plan.days w.current := by
  obtain ⟨current, last, h⟩ := exists_of_bind h
  have last := Window.lastDays_eq_ok_iff.mp last
  split at h
  · next comparing =>
    obtain ⟨previous, found, h⟩ := exists_of_bind h
    cases h
    refine ⟨last, ?_⟩
    rintro v rfl
    cases before : current.preceding with
    | error fault => rw [before] at found; cases found
    | ok u =>
      rw [before] at found
      cases found
      exact ⟨comparing, (Window.preceding_eq_ok_iff last.days).mp before⟩
  · cases h
    exact ⟨last, by rintro v ⟨⟩⟩

/-- The windows are there if the calendar has both, and a plan that compares has both. -/
theorem exists_windows (positive : 1 ≤ plan.days) (room : 2 * plan.days ≤ today.ordinal) :
    ∃ w, windows plan today = .ok w ∧ (plan.comparing = true → w.previous.isSome = true) := by
  obtain ⟨current, last⟩ := Window.exists_isLast positive (by omega : plan.days ≤ today.ordinal)
  obtain ⟨previous, before⟩ := Window.exists_isBefore positive last room
  have currently : Window.lastDays plan.days today = .ok current :=
    Window.lastDays_eq_ok_iff.mpr last
  have previously : current.preceding = .ok previous :=
    (Window.preceding_eq_ok_iff last.days).mpr before
  cases comparing : plan.comparing with
  | true =>
    refine ⟨⟨current, some previous⟩, ?_, fun _ => rfl⟩
    simp only [windows, currently, comparing, if_true, Bind.bind, Except.bind]
    rw [previously]
    rfl
  | false =>
    refine ⟨⟨current, none⟩, ?_, by rintro ⟨⟩⟩
    simp only [windows, currently, comparing, Bind.bind, Except.bind]
    rfl

theorem Recipes.mem_toList {r : Recipes} {recipe : Option Recipe}
    (listed : recipe ∈ [r.current, r.groups, r.previous, r.previousGroups]) {a : Recipe}
    (h : recipe = some a) : a ∈ r.toList :=
  List.mem_filterMap.mpr ⟨recipe, listed, h⟩

theorem series_congr {r : Recipes} {recipe : Option Recipe}
    (listed : recipe ∈ [r.current, r.groups, r.previous, r.previousGroups])
    (agree : ∀ q ∈ r.toList.flatMap Recipe.needs, source q = other q) :
    series source recipe = series other recipe := by
  cases found : recipe with
  | none => rfl
  | some a =>
    exact Recipe.resolve_congr fun q h =>
      agree q (List.mem_flatMap.mpr ⟨a, Recipes.mem_toList listed found, h⟩)

theorem fetch_congr {r : Recipes}
    (agree : ∀ q ∈ r.toList.flatMap Recipe.needs, source q = other q) :
    fetch source r = fetch other r := by
  have resolved (keep : Recipe → Bool) : (r.toList.filter keep).map (Recipe.resolve source) =
      (r.toList.filter keep).map (Recipe.resolve other) := by
    apply List.map_congr_left
    intro a h
    apply Recipe.resolve_congr
    intro q needed
    exact agree q (List.mem_flatMap.mpr ⟨a, (List.mem_filter.mp h).1, needed⟩)
  have current : series source r.current = series other r.current :=
    series_congr (by simp) agree
  have groups : series source r.groups = series other r.groups :=
    series_congr (by simp) agree
  have previous : series source r.previous = series other r.previous :=
    series_congr (by simp) agree
  have previousGroups : series source r.previousGroups = series other r.previousGroups :=
    series_congr (by simp) agree
  simp only [fetch, resolved, current, groups, previous, previousGroups]

/-- A fetch that comes to its end has the four series of its recipes. -/
theorem of_fetch {r : Recipes} {s : PlanSeries Double} (done : fetch source r = .done s) :
    series source r.current = .done s.current ∧ series source r.groups = .done s.groups ∧
      series source r.previous = .done s.previous ∧
      series source r.previousGroups = .done s.previousGroups := by
  unfold fetch at done
  simp only at done
  split at done
  · cases done
  · split at done
    · next current groups previous previousGroups =>
      cases done
      exact ⟨current, groups, previous, previousGroups⟩
    · cases done

/-- An execution reads the answers to the plan's queries only. -/
theorem execute_congr (agree : ∀ q ∈ queriesOn plan tenant today, source q = other q) :
    execute source question tenant plan today = execute other question tenant plan today := by
  unfold execute
  unfold queriesOn at agree
  split
  · rfl
  · next w found =>
    rw [found] at agree
    rw [fetch_congr agree]

theorem of_recipeOf {q : Query} {a : Recipe} (h : recipeOf q = some a) : Recipe.of q = .ok a := by
  unfold recipeOf at h
  cases made : Recipe.of q with
  | error failure => rw [made] at h; cases h
  | ok b => rw [made] at h; cases h; rfl

/-- Every recipe of a plan is that of a query over one of its windows, by all of its groups or by
none. -/
theorem mem_recipes {w : Windows} {a : Recipe} (h : a ∈ (recipes plan tenant w).toList) :
    ∃ v, (w.current = v ∨ w.previous = some v) ∧ ∃ groups, (groups = [] ∨ groups = plan.groups) ∧
      Recipe.of (query plan tenant groups v) = .ok a := by
  have grouped {v : Window} (h : (if plan.breakdowns.isEmpty then none
      else recipeOf (query plan tenant plan.groups v)) = some a) :
      Recipe.of (query plan tenant plan.groups v) = .ok a := by
    split at h
    · cases h
    · exact of_recipeOf h
  obtain ⟨recipe, listed, rfl⟩ := List.mem_filterMap.mp h
  simp only [recipes, List.mem_cons, List.not_mem_nil, or_false] at listed
  rcases listed with current | groups | previous | previousGroups
  · exact ⟨_, Or.inl rfl, _, Or.inl rfl, of_recipeOf current.symm⟩
  · exact ⟨_, Or.inl rfl, _, Or.inr rfl, grouped groups.symm⟩
  · obtain ⟨v, before, found⟩ := Option.bind_eq_some_iff.mp previous.symm
    exact ⟨v, Or.inr before, _, Or.inl rfl, of_recipeOf found⟩
  · obtain ⟨v, before, found⟩ := Option.bind_eq_some_iff.mp previousGroups.symm
    exact ⟨v, Or.inr before, _, Or.inr rfl, grouped found⟩

/-- A query over one of a plan's windows, by no more than its groups. -/
structure Within (plan : Plan) (tenant : String) (w : Windows) (q : Query) : Prop where
  tenant : q.tenant = tenant
  granularity : q.granularity = plan.granularity.name
  window : w.current = q.window ∨ w.previous = some q.window
  groups : ∀ b ∈ q.breakdowns, b ∈ plan.groups

theorem of_mem_needs {w : Windows} {a : Recipe} (h : a ∈ (recipes plan tenant w).toList) {q : Query}
    (needed : q ∈ a.needs) : Within plan tenant w q := by
  obtain ⟨v, window, groups, all, made⟩ := mem_recipes h
  obtain ⟨metric, breakdowns, fewer, rfl⟩ := Recipe.of_needs made needed
  refine ⟨rfl, rfl, window, ?_⟩
  rcases fewer with rfl | rfl
  · rintro b ⟨⟩
  · rcases all with rfl | rfl
    · rintro b ⟨⟩
    · exact fun _ mem => mem

theorem tenant_of_queriesOn {q : Query} (h : q ∈ queriesOn plan tenant today) :
    q.tenant = tenant := by
  unfold queriesOn at h
  split at h
  · obtain ⟨a, listed, needed⟩ := List.mem_flatMap.mp h
    exact (of_mem_needs listed needed).tenant
  · cases h

/-- A result is that of an analysis of the series that were fetched. -/
theorem exists_fetched {r : Result} (h : execute source question tenant plan today = .done r) :
    ∃ w s a, fetch source (recipes plan tenant w) = .done s ∧ Analysis.ofSeries plan s = .ok a ∧
      r = a.toResult question tenant plan := by
  unfold execute at h
  split at h
  · cases h
  · next w _ =>
    obtain ⟨s, fetched, h⟩ := Outcome.of_andThen h
    obtain ⟨a, made, h⟩ := exists_of_bind h
    cases h
    exact ⟨w, s, a, fetched, made, rfl⟩

theorem exists_analysis {r : Result} (h : execute source question tenant plan today = .done r) :
    ∃ s a, Analysis.ofSeries plan s = .ok a ∧ r = a.toResult question tenant plan := by
  obtain ⟨-, s, a, -, made⟩ := exists_fetched h
  exact ⟨s, a, made⟩

/-- The result names the question, the tenant and the plan that it was made for. -/
theorem execute_done {r : Result} (h : execute source question tenant plan today = .done r) :
    r.question = question ∧ r.tenant = tenant ∧ r.plan = plan := by
  obtain ⟨s, a, -, rfl⟩ := exists_analysis h
  exact ⟨rfl, rfl, rfl⟩

end Execution
end MetricDesk
