import MetricDesk.Plan.Validation
import MetricDesk.Proofs.Analysis.Rows

/-! What the rows of a series are named by: their days and their labels. Main statement:
`named_of_fetch`, where the rows of a source have strings for labels and days with words, so have
those of the series that are made of them. -/
namespace MetricDesk
open Clause (isFilled)

/-- Every label is a string. -/
def Fields.Worded (labels : Fields) : Prop := ∀ f ∈ labels, ∃ s, f.2 = .str s

/-- A row of a day that is not blank, with strings for labels. -/
structure SeriesRow.Named {α : Type} (row : SeriesRow α) : Prop where
  day : isFilled (.str row.day) = true
  labels : Fields.Worded row.labels

/-- The rows of a source have strings for labels, as far as they have any, and days that are not blank
in the characters that count. -/
def Source.Named (source : Source) : Prop :=
  ∀ q rows, source q = .rows rows → ∀ row ∈ rows,
    (∀ b ∈ Plan.breakdownNames, Value.getD row b = .null ∨ ∃ s, Value.getD row b = .str s) ∧
      isFilled (.str (dayText (Value.getD row "date"))) = true

theorem Fields.worded_ofEntries {entries : List (String × Value)}
    (each : ∀ e ∈ entries, ∃ s, e.2 = .str s) : Fields.Worded (ofEntries entries) :=
  fun f mem => each f (mem_ofEntries entries f mem)

/-- A label is a string, also where there is none. -/
theorem Fields.Worded.label {labels : Fields} (worded : labels.Worded) (b : String) :
    ∃ s, (get? labels b).getD (.str "") = .str s := by
  unfold get?
  cases found : labels.find? (·.1 == b) with
  | none => exact ⟨"", rfl⟩
  | some f => exact worded f (List.mem_of_find?_eq_some found)

namespace SeriesRow

theorem Named.label {α : Type} {row : SeriesRow α} (h : row.Named) (breakdown : String) :
    ∃ s, row.label breakdown = .str s :=
  h.labels.label breakdown

/-- The rows that a source has come out named. -/
theorem named_ofFields {breakdowns : List String} {row : Fields} {made : SeriesRow Double}
    (h : ofFields breakdowns row = .ok made)
    (labels : ∀ b ∈ breakdowns, Value.getD row b = .null ∨ ∃ s, Value.getD row b = .str s)
    (day : isFilled (.str (dayText (Value.getD row "date"))) = true) : made.Named := by
  obtain ⟨value, -, h⟩ := exists_of_bind h
  cases h
  refine ⟨day, Fields.worded_ofEntries ?_⟩
  intro e mem
  obtain ⟨b, asked, rfl⟩ := List.mem_map.mp mem
  rcases labels b asked with missing | ⟨s, found⟩
  · exact ⟨"", by simp only [missing]⟩
  · exact ⟨s, by simp only [found]⟩

end SeriesRow

/-! ### Composed series -/

namespace Series

theorem named_of_apportion {totals shares rows : List (SeriesRow Double)}
    (h : apportion totals shares = .ok rows) (named : ∀ row ∈ shares, row.Named) :
    ∀ row ∈ rows, row.Named := by
  obtain ⟨sums, -, h⟩ := exists_of_bind h
  obtain ⟨made, collected, h⟩ := exists_of_bind h
  cases h
  intro row mem
  obtain ⟨share, listed, splits⟩ :=
    exists_of_filterMapM collected row (List.mem_mergeSort.mp mem)
  unfold split? at splits
  split at splits
  · obtain ⟨part, -, splits⟩ := exists_of_bind splits
    cases splits
    exact ⟨(named share listed).day, (named share listed).labels⟩
  · cases splits

theorem named_of_quotient {values divisors rows : List (SeriesRow Double)}
    (h : quotient values divisors = .ok rows) (named : ∀ row ∈ values, row.Named) :
    ∀ row ∈ rows, row.Named := by
  obtain ⟨made, collected, h⟩ := exists_of_bind h
  cases h
  intro row mem
  obtain ⟨value, listed, divides⟩ :=
    exists_of_filterMapM collected row (List.mem_mergeSort.mp mem)
  unfold divide? at divides
  split at divides
  · obtain ⟨share, -, divides⟩ := exists_of_bind divides
    cases divides
    exact ⟨(named value listed).day, by rintro f ⟨⟩⟩
  · cases divides

end Series

theorem Recipe.named_of_make {r : Recipe} {fetched : List (List (SeriesRow Double))}
    {rows : List (SeriesRow Double)} (h : r.make fetched = .ok rows)
    (named : ∀ series ∈ fetched, ∀ row ∈ series, row.Named) : ∀ row ∈ rows, row.Named := by
  unfold make at h
  split at h
  · cases h
    exact named _ List.mem_cons_self
  · next total shares =>
    exact Series.named_of_apportion h (named shares (List.mem_cons_of_mem _ List.mem_cons_self))
  · exact Series.named_of_quotient h (named _ List.mem_cons_self)
  · cases h
    rintro row ⟨⟩

/-! ### Sources -/

namespace Outcome

theorem mem_of_all {α : Type} {os : List (Outcome α)} {as : List α} (h : all os = .done as) :
    ∀ a ∈ as, .done a ∈ os := by
  induction os generalizing as with
  | nil =>
    cases h
    rintro a ⟨⟩
  | cons o rest ih =>
    cases o with
    | failed failure => cases h
    | pending =>
      rw [all] at h
      split at h <;> cases h
    | done first =>
      rw [all] at h
      cases others : all rest with
      | failed failure => rw [others] at h; cases h
      | pending => rw [others] at h; cases h
      | done more =>
        rw [others] at h
        cases h
        intro a mem
        rcases List.mem_cons.mp mem with rfl | mem
        · exact List.mem_cons_self
        · exact List.mem_cons_of_mem _ (ih others a mem)

end Outcome

variable {source : Source}

/-- Only breakdowns are asked for. -/
def Query.Known (q : Query) : Prop := ∀ b ∈ q.breakdowns, b ∈ Plan.breakdownNames

theorem Query.named_of_fetch (named : Source.Named source) {q : Query} (known : q.Known)
    {rows : List (SeriesRow Double)} (h : q.fetch source = .done rows) :
    ∀ row ∈ rows, row.Named := by
  unfold fetch at h
  split at h
  · next answered found =>
    cases made : answered.mapM (SeriesRow.ofFields q.breakdowns) with
    | error failure => rw [made] at h; cases h
    | ok read =>
      rw [made] at h
      cases h
      intro row mem
      obtain ⟨fields, listed, same⟩ := exists_of_mapM made row mem
      obtain ⟨labels, day⟩ := named q answered found fields listed
      exact SeriesRow.named_ofFields same (fun b asked => labels b (known b asked)) day
  · cases h
  · cases h

theorem Recipe.named_of_resolve (named : Source.Named source) {r : Recipe}
    (known : ∀ q ∈ r.needs, q.Known) {rows : List (SeriesRow Double)}
    (h : r.resolve source = .done rows) : ∀ row ∈ rows, row.Named := by
  obtain ⟨fetched, all, made⟩ := Outcome.of_andThen h
  apply named_of_make made
  intro series mem
  obtain ⟨q, needed, found⟩ := List.mem_map.mp (Outcome.mem_of_all all series mem)
  exact Query.named_of_fetch named (known q needed) found

namespace Execution

theorem named_of_series (named : Source.Named source) {r : Option Recipe}
    (known : ∀ a ∈ r, ∀ q ∈ a.needs, q.Known) {rows : List (SeriesRow Double)}
    (h : series source r = .done rows) : ∀ row ∈ rows, row.Named := by
  cases r with
  | none =>
    cases h
    rintro row ⟨⟩
  | some r => exact Recipe.named_of_resolve named (known r rfl) h

/-- The rows of the plan's own window are named, whole and by group. -/
theorem named_of_fetch (named : Source.Named source) {plan : Plan} {tenant : String} {w : Windows}
    {s : PlanSeries Double} (h : fetch source (recipes plan tenant w) = .done s) :
    (∀ row ∈ s.current, row.Named) ∧ ∀ row ∈ s.groups, row.Named := by
  have known (a : Recipe) (listed : a ∈ (recipes plan tenant w).toList) :
      ∀ q ∈ a.needs, q.Known := fun q needed b mem =>
    Plan.mem_breakdownNames ((of_mem_needs listed needed).groups b mem)
  obtain ⟨foundCurrent, foundGroups, -, -⟩ := of_fetch h
  constructor
  · apply named_of_series named _ foundCurrent
    intro a here
    exact known a (List.mem_filterMap.mpr ⟨_, List.mem_cons_self, here⟩)
  · apply named_of_series named _ foundGroups
    intro a here
    exact known a (List.mem_filterMap.mpr ⟨_, List.mem_cons_of_mem _ List.mem_cons_self, here⟩)

end Execution
end MetricDesk
