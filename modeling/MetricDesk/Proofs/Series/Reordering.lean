import MetricDesk.Proofs.Series.Labels
import MetricDesk.Proofs.Series.Quotient

/-! Series whatever the order of the rows that they are made of. Main statement: `make_of_perm`,
over exact numbers fetched rows in another order make the same rows in another order, and the same
series where revenue per user is made of them. -/
namespace MetricDesk
namespace Series

section
variable {α : Type} {rows others : List (SeriesRow α)}

theorem onDay_of_perm (perm : rows.Perm others) (single : (rows.map (·.day)).Nodup)
    (day : String) : onDay rows day = onDay others day :=
  filter_key_eq_of_perm (fun row : SeriesRow α => row.day) perm single day

theorem valueOn_of_perm (perm : rows.Perm others) (single : (rows.map (·.day)).Nodup)
    (day : String) : valueOn rows day = valueOn others day := by
  have singleToo : (others.map (·.day)).Nodup := (perm.map _).nodup_iff.mp single
  cases found : valueOn rows day with
  | some v =>
    obtain ⟨row, mem, rfl, rfl⟩ := exists_of_valueOn found
    exact (valueOn_of_mem singleToo (perm.mem_iff.mp mem)).symm
  | none =>
    cases other : valueOn others day with
    | none => rfl
    | some v =>
      obtain ⟨row, mem, rfl, rfl⟩ := exists_of_valueOn other
      rw [valueOn_of_mem single (perm.mem_iff.mpr mem)] at found
      cases found

/-- A quotient of series that have no day twice does not hang on the order of their rows. -/
theorem Divided.of_perm {divide : α → α → α} {values again divisors divisorsAgain out outAgain :
    List (SeriesRow α)} (h : Divided divide values divisors out)
    (hAgain : Divided divide again divisorsAgain outAgain) (perm : values.Perm again)
    (single : (values.map (·.day)).Nodup) (permDivisors : divisors.Perm divisorsAgain) :
    out = outAgain := by
  apply h.unique
  refine ⟨?_, ?_, hAgain.ordered⟩
  · intro divisor mem
    rw [hAgain.rows divisor (permDivisors.mem_iff.mp mem), onDay_of_perm perm single]
  · intro row mem
    obtain ⟨divisor, listed, same⟩ := hAgain.both row mem
    exact ⟨divisor, permDivisors.mem_iff.mpr listed, same⟩

end

/-! ### Splitting a total -/

variable {totals totalsAgain shares sharesAgain : List (SeriesRow ℚ)}

theorem sumOn_of_perm (perm : shares.Perm sharesAgain) : sumOn shares = sumOn sharesAgain := by
  funext day
  exact ((perm.filter _).map _).sum_eq

/-- Totals split over shares in another order are the same rows in another order. -/
theorem apportion_of_perm (single : (totals.map (·.day)).Nodup) (perm : totals.Perm totalsAgain)
    (permShares : shares.Perm sharesAgain) :
    ∃ out again, apportion totals shares = .ok out ∧
      apportion totalsAgain sharesAgain = .ok again ∧ out.Perm again ∧
      ∀ row ∈ out, ∃ share ∈ shares, row.labels = share.labels := by
  have split : splitOn totals (sumOn shares) = splitOn totalsAgain (sumOn sharesAgain) := by
    funext row
    rw [splitOn, splitOn, valueOn_of_perm perm single, sumOn_of_perm permShares]
  refine ⟨_, _, apportion_eq_ok totals shares, apportion_eq_ok totalsAgain sharesAgain, ?_, ?_⟩
  · rw [split]
    exact (perm_byDay _).trans ((permShares.filterMap _).trans (perm_byDay _).symm)
  · intro row mem
    obtain ⟨share, listed, made⟩ := List.mem_filterMap.mp ((perm_byDay _).mem_iff.mp mem)
    obtain ⟨v, -, rfl⟩ := Option.map_eq_some_iff.mp made
    exact ⟨share, listed, rfl⟩

end Series

/-! ### Recipes -/

/-- What a query brings: its labels are strings, and without groups it has no day twice. -/
structure Query.Brings (q : Query) (rows : List (SeriesRow ℚ)) : Prop where
  worded : ∀ row ∈ rows, Fields.Worded row.labels
  single : q.breakdowns = [] → (rows.map (·.day)).Nodup

namespace Recipe

variable {q : Query} {r : Recipe}

/-- What a query is made of. -/
theorem of_cases (made : Recipe.of q = .ok r) :
    (r = .native q ∧ q.metric ≠ Metric.arpdau.name) ∨
      (∃ total shares, r = .apportioned total shares ∧ total.breakdowns = [] ∧
        shares.breakdowns = q.breakdowns ∧ q.metric ≠ Metric.arpdau.name) ∨
      ∃ value divisor, r = .quotient value divisor ∧ value.breakdowns = [] ∧
        divisor.breakdowns = [] ∧ q.metric = Metric.arpdau.name := by
  by_cases perUser : q.metric = Metric.arpdau.name
  · rw [of_arpdau perUser] at made
    cases made
    exact Or.inr (Or.inr ⟨_, _, rfl, rfl, rfl, perUser⟩)
  · unfold Recipe.of at made
    split at made
    · cases made
    · next named =>
      change Metric.all.find? (·.name == q.metric) = some .arpdau at named
      have same := List.find?_some named
      exact absurd (beq_iff_eq.mp same).symm perUser
    · split at made
      · cases made
        exact Or.inl ⟨rfl, perUser⟩
      · cases made
        exact Or.inr (Or.inl ⟨_, _, rfl, rfl, rfl, perUser⟩)
    · cases made
      exact Or.inl ⟨rfl, perUser⟩

/-- Fetched rows in another order make the same rows in another order. Revenue per user has the
order of its days, and so is the same. -/
theorem make_of_perm (made : Recipe.of q = .ok r) {fetched again : List (List (SeriesRow ℚ))}
    (brings : List.Forall₂ Query.Brings r.needs fetched)
    (perm : List.Forall₂ List.Perm fetched again) :
    ∃ rows others, r.make fetched = .ok rows ∧ r.make again = .ok others ∧ rows.Perm others ∧
      (∀ row ∈ rows, Fields.Worded row.labels) ∧
      (q.metric = Metric.arpdau.name → rows = others) := by
  rcases of_cases made with ⟨rfl, other⟩ | ⟨total, shares, rfl, whole, -, other⟩ |
    ⟨value, divisor, rfl, whole, wholeToo, -⟩
  · cases brings with
    | cons brings none =>
      cases none
      cases perm with
      | cons perm none =>
        cases none
        exact ⟨_, _, rfl, rfl, perm, brings.worded, fun perUser => absurd perUser other⟩
  · obtain _ | ⟨bringsTotal, _ | ⟨bringsShares, _ | _⟩⟩ := brings
    obtain _ | ⟨perm, _ | ⟨permShares, _ | _⟩⟩ := perm
    obtain ⟨rows, others, made, madeAgain, same, labels⟩ :=
      Series.apportion_of_perm (bringsTotal.single whole) perm permShares
    refine ⟨rows, others, made, madeAgain, same, ?_, fun perUser => absurd perUser other⟩
    intro row mem
    obtain ⟨share, listed, labelled⟩ := labels row mem
    rw [labelled]
    exact bringsShares.worded share listed
  · obtain _ | ⟨bringsValue, _ | ⟨bringsDivisor, _ | _⟩⟩ := brings
    obtain _ | ⟨perm, _ | ⟨permDivisors, _ | _⟩⟩ := perm
    rename_i values divisors again divisorsAgain
    have single := bringsDivisor.single wholeToo
    have singleAgain : (divisorsAgain.map (·.day)).Nodup := (permDivisors.map _).nodup_iff.mp single
    have divided : Series.Divided Series.exactly values divisors _ :=
      Series.divided_byDay single values
    have dividedAgain : Series.Divided Series.exactly again divisorsAgain _ :=
      Series.divided_byDay singleAgain again
    have same := divided.of_perm dividedAgain perm (bringsValue.single whole) permDivisors
    refine ⟨_, _, Series.quotient_eq_ok Series.ratio_exactly values divisors,
      Series.quotient_eq_ok Series.ratio_exactly again divisorsAgain, .of_eq same, ?_,
      fun _ => same⟩
    intro row mem
    rw [divided.labels row mem]
    rintro f ⟨⟩

end Recipe
end MetricDesk
