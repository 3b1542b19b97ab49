import MetricDesk.Proofs.Plan.Demand

/-! What is reported of a number of days. Main statement: `daysClause_told`, the first demand that
it does not satisfy. -/
namespace MetricDesk

theorem Number.zero_lt_iff (k : Number) : (Number.int 0).lt k = true ↔
    k.isNan = false ∧ k.lt (.int 0) = false ∧ k.isZero = false := by
  cases k with
  | int n =>
    simp [Number.lt, Number.compare?, Number.isNan, Number.isZero, Int.compare_eq_lt]
    omega
  | dbl x =>
    cases x with
    | nan => simp [Number.lt, Number.compare?, Number.compareInt, Number.isNan, Double.isNan]
    | infinite s =>
      cases s <;> simp [Number.lt, Number.compare?, Number.compareInt, Number.isNan, Double.isNan,
        Number.isZero, Double.isZero]
    | finite s m e h =>
      have zero : (Double.finite s m e h).isZero = true ↔ (Double.quotient m e).1 = 0 := by
        cases m <;> cases e <;> simp [Double.isZero, Double.quotient]
      rw [← Bool.not_eq_true, ← Bool.not_eq_true, ← Bool.not_eq_true, Number.isZero, zero]
      cases s
      · simp [Number.lt, Number.compare?, Number.compareInt, Number.isNan, Double.isNan,
          Int.compare_eq_lt, Int.compare_eq_gt]
        omega
      · simp [Number.lt, Number.compare?, Number.compareInt, Number.isNan, Double.isNan,
          Int.compare_eq_lt, Int.compare_eq_gt]

/-- A positive double without a fraction is the double of a whole number. -/
theorem Double.exists_ofInt {x : Double} (positive : (Number.int 0).lt (.dbl x) = true)
    (whole : x.isWhole = true) : ∃ n : Nat, 0 < n ∧ n < Double.beyond ∧ x = .ofInt n := by
  cases x with
  | nan => cases whole
  | infinite => cases whole
  | finite s m e h =>
    have bPos := Double.quotient_pos m e
    have divides := whole
    simp only [Double.isWhole, beq_iff_eq] at divides
    obtain ⟨q, value⟩ := Nat.dvd_of_mod_eq_zero divides
    have signed : s = false ∧ 0 < (Double.quotient m e).1 := by
      simp only [Number.lt, Number.compare?, Number.compareInt, beq_iff_eq, Option.some.injEq,
        Int.compare_eq_lt, Int.zero_mul] at positive
      cases s
      · exact ⟨rfl, by simpa using positive⟩
      · simp at positive
        omega
    obtain ⟨rfl, aPos⟩ := signed
    have some : 0 < q := Nat.pos_of_mul_pos_left (value ▸ aPos)
    have found : (Double.finite false m e h).toInt? = .some (q : Int) := by
      simp [Double.toInt?, Rounding.truncated, value, Nat.mul_div_cancel_left _ bPos]
    have same := Double.eq_ofInt_of_toInt? whole found some
    refine ⟨q, some, (Double.isFinite_ofInt_iff q).mp ?_, same⟩
    rw [← same]
    rfl

namespace Plan
open Clause

theorem numeric_num {k : Number} : Numeric (.num k) ↔ k.isNan = false := by
  simp [Numeric]

theorem positive_num {k : Number} : Positive (.num k) ↔ (Number.int 0).lt k = true := by
  simp [Positive]

theorem numeric_of_positive {v : Value} (positive : Positive v) : Numeric v := by
  obtain ⟨k, rfl, above⟩ := positive
  exact ⟨k, rfl, ((Number.zero_lt_iff k).mp above).1⟩

/-- Whole days are a positive number of them. -/
theorem positive_of_days {v : Value} {n : Nat} (positive : Positive v) (days : Days v n) :
    0 < n := by
  rw [Nat.pos_iff_ne_zero]
  rintro rfl
  obtain ⟨k, same, above⟩ := positive
  cases days <;> cases same <;> revert above <;> decide +kernel

/-- Among the positive numbers with a double those of whole days are the doubles without a
fraction. -/
theorem wholeDays_num {k : Number} {x : Double} (positive : (Number.int 0).lt k = true)
    (double : k.toDouble = .ok x) : WholeDays (.num k) ↔ x.isWhole = true := by
  constructor
  · rintro ⟨above, n, days, bounded⟩
    have some := positive_of_days above days
    have finite := (Double.isFinite_ofInt_iff n).mpr bounded
    suffices x = .ofInt n by rw [this, Double.isWhole_ofInt some bounded]
    cases days with
    | whole =>
      rw [Number.toDouble] at double
      simp only [finite, if_true] at double
      exact (Except.ok.inj double).symm
    | double => exact (Except.ok.inj double).symm
  · intro whole
    refine ⟨positive_num.mpr positive, ?_⟩
    cases k with
    | int k =>
      obtain ⟨-, negative, -⟩ := (Number.zero_lt_iff _).mp positive
      simp only [Number.lt, Number.compare?] at negative
      simp [Int.compare_eq_lt] at negative
      obtain ⟨n, rfl⟩ := Int.eq_ofNat_of_zero_le negative
      refine ⟨n, .whole n, (Double.isFinite_ofInt_iff n).mp ?_⟩
      by_contra infinite
      simp [Number.toDouble, infinite] at double
    | dbl y =>
      cases double
      obtain ⟨n, -, bounded, rfl⟩ := Double.exists_ofInt positive whole
      exact ⟨n, .double n, bounded⟩

theorem daysClause_of_positive {k : Number} {x : Double} (positive : (Number.int 0).lt k = true)
    (double : k.toDouble = .ok x) : daysClause (.num k) = .ok (if x.isWhole = true then
      if (Number.int maxWindowDays).lt k = true then [.tooManyDays "time_range.n" maxWindowDays]
      else [] else [.notWholeDays "time_range.n"]) := by
  obtain ⟨numeric, negative, nonzero⟩ := (Number.zero_lt_iff k).mp positive
  rw [daysClause, numeric, negative, nonzero, double]
  change (if (!x.isWhole) = true then _ else
    if (Number.int maxWindowDays).lt k = true then _ else _) = _
  cases x.isWhole with
  | false => rfl
  | true => by_cases long : (Number.int maxWindowDays).lt k = true <;> simp [long] <;> rfl

/-- Whole days are within the limit where nothing is reported of them. -/
theorem limited_iff {k : Number} {x : Double} (positive : (Number.int 0).lt k = true)
    (double : k.toDouble = .ok x) (whole : x.isWhole = true) :
    ¬ (Number.int maxWindowDays).lt k = true ↔ ∃ n, Days (.num k) n ∧ n ≤ maxWindowDays := by
  have clear : daysClause (.num k) = .ok [] ↔ ¬ (Number.int maxWindowDays).lt k = true := by
    rw [daysClause_of_positive positive double, if_pos whole]
    split <;> simp_all
  rw [← clear, daysClause_iff]
  constructor
  · rintro ⟨n, days, -, limited⟩
    exact ⟨n, days, limited⟩
  · rintro ⟨n, days, limited⟩
    exact ⟨n, days, positive_of_days (positive_num.mpr positive) days, limited⟩

/-- What is reported of a positive number with a double. -/
theorem positive_tells {k : Number} {x : Double} (positive : (Number.int 0).lt k = true)
    (double : k.toDouble = .ok x) : Tells (dayDemands (.num k)) (if x.isWhole = true then
      if (Number.int maxWindowDays).lt k = true then [.tooManyDays "time_range.n" maxWindowDays]
      else [] else [.notWholeDays "time_range.n"]) := by
  have above : Positive (.num k) := positive_num.mpr positive
  refine .met (numeric_of_positive above) (.met (fun _ => above) ?_)
  by_cases whole : x.isWhole = true
  · have days : WholeDays (.num k) := (wholeDays_num positive double).mpr whole
    have limited := limited_iff positive double whole
    rw [if_pos whole]
    refine .met (fun _ => days) ?_
    split
    · next long => exact .broken (fun demand => limited.mpr (demand days) long) .done
    · next short => exact .met (fun _ => limited.mp short) .done
  · have fraction : ¬ WholeDays (.num k) := (wholeDays_num positive double).not.mpr whole
    rw [if_neg whole]
    exact .broken (fun demand => fraction (demand above))
      (.met (fun days => absurd days fraction) .done)

theorem daysClause_told (v : Value) : Told (dayDemands v) (daysClause v) := by
  intro found reported
  -- Of what satisfies no demand that comes before, nothing more is demanded.
  have beyond (negative : ¬ Positive v) : Tells [
      ⟨.here .wholeness, Positive v → WholeDays v, .notWholeDays "time_range.n"⟩,
      ⟨.here .limit, WholeDays v → ∃ n, Days v n ∧ n ≤ maxWindowDays,
        .tooManyDays "time_range.n" maxWindowDays⟩] [] :=
    .met (fun positive => absurd positive negative)
      (.met (fun whole => absurd whole.1 negative) .done)
  have none (fails : ¬ Numeric v) : Tells (dayDemands v) [.notNumber "time_range.n"] :=
    .broken fails (.met (fun numeric => absurd numeric fails)
      (beyond fun positive => fails (numeric_of_positive positive)))
  cases v with
  | num k =>
    by_cases numeric : k.isNan = false
    · by_cases positive : (Number.int 0).lt k = true
      · cases double : k.toDouble with
        | error fault =>
          have failed := ((daysClause_num k).2 fault).mpr
            ⟨numeric, ((Number.zero_lt_iff k).mp positive).2, double⟩
          rw [failed] at reported
          cases reported
        | ok x =>
          rw [daysClause_of_positive positive double] at reported
          cases reported
          exact positive_tells positive double
      · have low : (k.lt (.int 0) || k.isZero) = true := by
          by_contra above
          rw [Bool.not_eq_true, Bool.or_eq_false_iff] at above
          exact positive ((Number.zero_lt_iff k).mpr ⟨numeric, above⟩)
        rw [daysClause, numeric, low] at reported
        cases reported
        have negative : ¬ Positive (.num k) := positive_num.not.mpr positive
        exact .met (numeric_num.mpr numeric)
          (.broken (fun demand => negative (demand (numeric_num.mpr numeric))) (beyond negative))
    · have nan : k.isNan = true := by simpa using numeric
      rw [daysClause, if_pos nan] at reported
      cases reported
      exact none (numeric_num.not.mpr numeric)
  | _ =>
    cases reported
    exact none (by rintro ⟨_, ⟨⟩, -⟩)

end Plan
end MetricDesk
