import MetricDesk.Proofs.Analysis.Execution
import MetricDesk.Proofs.Failure

/-! The summary of an executed plan. Main statement: `rounded_of_execute`, each of its numbers has
been rounded to two decimal places. -/
namespace MetricDesk

/-- The numbers of a summary that are there. -/
def Summary.numbers (s : Summary) : List Double :=
  s.value :: [s.previous, s.change, s.changePercent].filterMap id

/-- A double is another one rounded to two decimal places. -/
def Double.IsRounded (x : Double) : Prop := ∃ y : Double, x = y.round 2

namespace Analysis

theorem isRounded_headline {plan : Plan} {rows : List (SeriesRow Double)} {x : Double}
    (h : headline plan rows = .ok x) : x.IsRounded := by
  obtain ⟨y, -, rounded⟩ := exists_of_bind h
  exact ⟨y, (Except.ok.inj rounded).symm⟩

theorem isRounded_percentChange {change previous x : Double}
    (h : percentChange change previous = .ok (some x)) : x.IsRounded := by
  obtain ⟨zero, -, h⟩ := exists_of_bind h
  cases zero with
  | true => cases h
  | false =>
    obtain ⟨share, -, h⟩ := exists_of_bind h
    obtain ⟨percent, -, h⟩ := exists_of_bind h
    obtain ⟨y, rounded, same⟩ := exists_of_bind h
    cases same
    exact ⟨percent, (Except.ok.inj rounded).symm⟩

/-- What an analysis has computed, step by step. -/
structure Steps (plan : Plan) (s : PlanSeries Double) (a : Analysis Double) : Prop where
  value : headline plan s.current = .ok a.value
  table : TableRow.ofSeries plan.metric.rollup plan.groups s.groups = .ok a.table
  series : a.series = s.current
  confidence : a.confidence = confidenceOf plan a.attribution
  compared : (plan.comparing = false ∧ a.previous = none ∧ a.change = none ∧
      a.changePercent = none ∧ a.attribution = []) ∨
    (∃ previous change percent before, plan.comparing = true ∧
      headline plan s.previous = .ok previous ∧
      Quantity.round 2 (a.value.sub previous) = .ok change ∧
      percentChange change previous = .ok percent ∧
      AttributionRow.ofTables plan.groups a.table before = .ok a.attribution ∧
      a.previous = some previous ∧ a.change = some change ∧ a.changePercent = percent)

theorem steps_of_ofSeries {plan : Plan} {s : PlanSeries Double} {a : Analysis Double}
    (h : ofSeries plan s = .ok a) : Steps plan s a := by
  obtain ⟨value, headlined, h⟩ := exists_of_bind h
  obtain ⟨table, tabled, h⟩ := exists_of_bind h
  split at h
  · next comparing =>
    obtain ⟨previous, headlinedBefore, h⟩ := exists_of_bind h
    obtain ⟨moved, difference, h⟩ := exists_of_bind h
    obtain ⟨change, changed, h⟩ := exists_of_bind h
    obtain ⟨percent, counted, h⟩ := exists_of_bind h
    obtain ⟨before, -, h⟩ := exists_of_bind h
    obtain ⟨attribution, attributed, h⟩ := exists_of_bind h
    cases h
    obtain rfl := Except.ok.inj difference
    exact
      { value := headlined
        table := tabled
        series := rfl
        confidence := rfl
        compared := Or.inr ⟨previous, change, percent, before, comparing, headlinedBefore, changed,
          counted, attributed, rfl, rfl, rfl⟩ }
  · next single =>
    cases h
    exact
      { value := headlined
        table := tabled
        series := rfl
        confidence := rfl
        compared := Or.inl ⟨Bool.eq_false_iff.mpr single, rfl, rfl, rfl, rfl⟩ }

/-- Every number of the summary has two decimal places. -/
theorem Steps.isRounded {plan : Plan} {s : PlanSeries Double} {a : Analysis Double}
    (steps : Steps plan s a) {x : Double}
    (mem : x ∈ Summary.numbers ⟨a.value, a.previous, a.change, a.changePercent⟩) : x.IsRounded := by
  have value := isRounded_headline steps.value
  rcases List.mem_cons.mp mem with rfl | mem
  · exact value
  obtain ⟨o, listed, rfl⟩ := List.mem_filterMap.mp mem
  simp only [List.mem_cons, List.not_mem_nil, or_false] at listed
  rcases steps.compared with ⟨-, none, noChange, noPercent, -⟩ |
    ⟨previous, change, percent, before, -, headlined, changed, counted, -, some, someChange, same⟩
  · rw [none, noChange, noPercent] at listed
    rcases listed with missing | missing | missing <;> cases missing
  · rw [some, someChange, same] at listed
    rcases listed with here | here | here
    · cases here
      exact isRounded_headline headlined
    · cases here
      exact ⟨_, (Except.ok.inj changed).symm⟩
    · rw [← here] at counted
      exact isRounded_percentChange counted

end Analysis

namespace Execution

theorem rounded_of_execute {source : Source} {question tenant : String} {plan : Plan} {today : Date}
    {r : Result} (done : execute source question tenant plan today = .done r) :
    ∀ x ∈ r.summary.numbers, x.IsRounded := by
  obtain ⟨s, a, made, rfl⟩ := exists_analysis done
  intro x mem
  exact (Analysis.steps_of_ofSeries made).isRounded mem

end Execution
end MetricDesk
