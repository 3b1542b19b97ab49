import MetricDesk.Planner
import MetricDesk.Proofs.Plan.Acceptance

/-! How the check of a plan ends. Main statement: `Planner.reported_unless_beyond`, every candidate
becomes a plan or is reported with its violations, but for one whose number of days is a whole
number beyond the range of doubles; the same holds of planning by the built-in rules. -/
namespace MetricDesk

namespace Plan
open Clause

/-- A plan, or the violations of what was to become one. -/
def Reported (outcome : Except Failure Plan) : Prop :=
  (∃ p, outcome = .ok p) ∨ ∃ found, found ≠ [] ∧ outcome = .error (.schema found)

/-- The number of days is a whole number that no double is near. -/
def Boundless (c : Value) : Prop :=
  ∃ (fields range : Fields) (n : Nat), c = .obj fields ∧
    fields.get? "time_range" = some (.obj range) ∧ range.get? "n" = some (.nat n) ∧
    Double.beyond ≤ n

/-! ### Where the check itself fails -/

theorem toDouble_nat_error_iff (n : Nat) (fault : ArithmeticFault) :
    (Number.int n).toDouble = .error fault ↔ fault = .intTooLarge ∧ Double.beyond ≤ n := by
  rw [← not_lt, ← Double.isFinite_ofInt_iff, Number.toDouble]
  cases (Double.ofInt n).isFinite <;> simp [eq_comm]

theorem daysClause_error_iff (v : Value) (fault : ArithmeticFault) :
    daysClause v = .error fault ↔
      fault = .intTooLarge ∧ ∃ n : Nat, v = .nat n ∧ Double.beyond ≤ n := by
  constructor
  · intro failed
    cases v with
    | num k =>
      obtain ⟨-, ⟨negative, -⟩, double⟩ := ((daysClause_num k).2 fault).mp failed
      cases k with
      | int k =>
        simp only [Number.lt, Number.compare?] at negative
        simp [Int.compare_eq_lt] at negative
        obtain ⟨n, rfl⟩ := Int.eq_ofNat_of_zero_le negative
        obtain ⟨same, beyond⟩ := (toDouble_nat_error_iff n fault).mp double
        exact ⟨same, n, rfl, beyond⟩
      | dbl x => cases double
    | _ => cases failed
  · rintro ⟨rfl, n, rfl, beyond⟩
    have some : 0 < n := (show 0 < Double.beyond by decide +kernel).trans_le beyond
    refine ((daysClause_num _).2 _).mpr ⟨rfl, ⟨?_, ?_⟩, ?_⟩
    · simp [Number.lt, Number.compare?, Int.compare_eq_lt]
    · simp [Number.isZero]
      omega
    · exact (toDouble_nat_error_iff n _).mpr ⟨rfl, beyond⟩

theorem part_error_iff {fields : Fields} {key : String} {fault : ArithmeticFault}
    {clause : Value → Except ArithmeticFault (List Violation)} :
    part clause fields key = .error fault ↔
      ∃ v, fields.get? key = some v ∧ clause v = .error fault := by
  unfold part
  cases fields.get? key <;> simp

theorem timeRangeClause_error_iff (v : Value) (fault : ArithmeticFault) :
    timeRangeClause v = .error fault ↔ fault = .intTooLarge ∧
      ∃ (range : Fields) (n : Nat), v = .obj range ∧ range.get? "n" = some (.nat n) ∧
        Double.beyond ≤ n := by
  cases v with
  | obj range =>
    rw [timeRangeClause_obj, map_error_iff, part_error_iff]
    simp only [daysClause_error_iff]
    constructor
    · rintro ⟨_, found, rfl, n, rfl, beyond⟩
      exact ⟨rfl, range, n, rfl, found, beyond⟩
    · rintro ⟨rfl, _, n, ⟨⟩, found, beyond⟩
      exact ⟨_, found, rfl, n, rfl, beyond⟩
  | _ => exact iff_of_false (by rintro ⟨⟩) (by rintro ⟨-, range, n, ⟨⟩, -⟩)

/-- Only a number of days that has no double keeps the violations from being found. -/
theorem violations_error_iff (c : Value) (fault : ArithmeticFault) :
    violations c = .error fault ↔ fault = .intTooLarge ∧ Boundless c := by
  cases c with
  | obj fields =>
    rw [violations_obj, map_error_iff, part_error_iff]
    simp only [timeRangeClause_error_iff]
    constructor
    · rintro ⟨_, there, rfl, range, n, rfl, found, beyond⟩
      exact ⟨rfl, fields, range, n, rfl, there, found, beyond⟩
    · rintro ⟨rfl, _, range, n, ⟨⟩, there, found, beyond⟩
      exact ⟨_, there, rfl, range, n, rfl, found, beyond⟩
  | _ => exact iff_of_false (by rintro ⟨⟩) (by rintro ⟨-, fields, range, n, ⟨⟩, -⟩)

/-! ### Where a candidate without violations is no plan -/

theorem analysisParts_eq_nil {path : String} {xs : List Value}
    (none : analysisParts path (.list xs) = []) : ∀ x ∈ xs, ∃ s, x = .str s := by
  intro x mem
  obtain ⟨i, here⟩ := List.getElem?_of_mem mem
  have kept := List.filterMap_eq_nil_iff.mp none (x, i) (List.mem_zipIdx_iff_getElem?.mpr here)
  cases x with
  | str s => exact ⟨s, rfl⟩
  | _ => cases kept

/-- What is no plan though no clause objects has an analysis that is no string, and is reported. -/
theorem partViolations_ne_nil {c : Value} {path : String} (clear : violations c = .ok [])
    (unread : ofValue? c = none) : partViolations path c ≠ [] := by
  obtain ⟨fields, rfl, shape⟩ := (violations_eq_nil_iff c).mp clear
  obtain ⟨_, found, xs, rfl, -⟩ := shape.analysis
  intro none
  have listed : Value.getD fields "analysis" = .list xs := by
    rw [Value.getD, found, Option.getD_some]
  rw [partViolations, listed] at none
  have texts := analysisParts_eq_nil none
  have whole : Shape (fun x => ∃ s, x = .str s) fields :=
    { shape with analysis := ⟨_, found, xs, rfl, texts⟩ }
  obtain ⟨p, read, -⟩ := whole.read
  rw [read] at unread
  cases unread

/-- Every candidate ends as a plan or with its violations, unless its number of days is out of
bounds; then the check itself fails. -/
theorem validate_ends (c : Value) : (Reported (validate c) ∧ ¬ Boundless c) ∨
    (validate c = .error (.arithmetic .intTooLarge) ∧ Boundless c) := by
  cases found : violations c with
  | error fault =>
    obtain ⟨rfl, boundless⟩ := (violations_error_iff c fault).mp found
    refine Or.inr ⟨?_, boundless⟩
    rw [validate, found]
    rfl
  | ok vs =>
    have bounded : ¬ Boundless c := by
      intro boundless
      rw [(violations_error_iff c .intTooLarge).mpr ⟨rfl, boundless⟩] at found
      cases found
    refine Or.inl ⟨?_, bounded⟩
    cases vs with
    | cons v vs =>
      refine Or.inr ⟨v :: vs, List.cons_ne_nil v vs, ?_⟩
      rw [validate, found]
      rfl
    | nil =>
      rw [validate_of_clear found]
      cases read : ofValue? c with
      | some p => exact Or.inl ⟨p, rfl⟩
      | none => exact Or.inr ⟨_, partViolations_ne_nil found read, rfl⟩

/-- A plan's wire form is out of bounds only if the plan's days are. -/
theorem boundless_toValue_iff (p : Plan) : Boundless p.toValue ↔ Double.beyond ≤ p.days := by
  constructor
  · rintro ⟨_, _, n, same, there, found, beyond⟩
    cases same
    cases there
    cases found
    exact beyond
  · exact fun beyond => ⟨p.toFields, _, p.days, rfl, rfl, rfl, beyond⟩

end Plan

/-! ### Plans by the built-in rules -/

/-- What the built-in rules make of a question, with nothing kept from before. -/
def Draft.checked (question : String) : Except Failure Plan := do
  Plan.validate (← Draft.of question).toValue

theorem Planner.plan_rules {σ : Type} {p : Planner σ} (rules : p.mode = .rules)
    (question day : String) (s : σ) : p.plan question day s = (Draft.checked question, s) := by
  obtain ⟨_, model, maxTokens⟩ := p
  cases rules
  unfold Planner.plan Planner.candidate Draft.checked
  cases Draft.of question <;> rfl

namespace Draft

/-- The days of a draft are those of the question's phrase, and it fails only for want of them. -/
theorem of_cases (question : String) :
    (∃ p, of question = .ok p ∧ Phrase.days (wording question) = .ok p.days) ∨
      ∃ failure, of question = .error failure ∧
        Phrase.days (wording question) = .error failure := by
  cases found : Phrase.days (wording question) with
  | ok n =>
    simp only [of, found]
    exact Or.inl ⟨_, rfl, rfl⟩
  | error failure =>
    simp only [of, found]
    exact Or.inr ⟨failure, rfl, rfl⟩

end Draft

/-- A phrase fails only for a number of too many digits. -/
theorem Phrase.days_error {q : List Char} {failure : Failure} (h : days q = .error failure) :
    ∃ count, Json.maxDigits < count ∧ failure = .tooManyDigits count := by
  unfold days at h
  split at h
  · next p digits _ =>
    split at h
    · next long => exact ⟨_, long, (Except.error.inj h).symm⟩
    · cases h
  · split at h <;> cases h

/-- How planning by the rules ends: with a plan or its violations, unless the question's number of
days has no double, or more digits than are read. -/
theorem Draft.checked_ends (question : String) :
    (∃ n, Phrase.days (wording question) = .ok n ∧
      ((Plan.Reported (checked question) ∧ n < Double.beyond) ∨
        (checked question = .error (.arithmetic .intTooLarge) ∧ Double.beyond ≤ n))) ∨
    ∃ count, Json.maxDigits < count ∧
      Phrase.days (wording question) = .error (.tooManyDigits count) ∧
      checked question = .error (.tooManyDigits count) := by
  rcases of_cases question with ⟨p, made, days⟩ | ⟨failure, failed, days⟩
  · have ends : checked question = Plan.validate p.toValue := by rw [checked, made]; rfl
    refine Or.inl ⟨p.days, days, ?_⟩
    rw [ends, ← Plan.boundless_toValue_iff, ← not_le, ← Plan.boundless_toValue_iff]
    exact Plan.validate_ends p.toValue
  · obtain ⟨count, long, rfl⟩ := Phrase.days_error days
    exact Or.inr ⟨count, long, days, by rw [checked, failed]; rfl⟩

/-- The check reports every candidate but one whose number of days is a whole number beyond the
range of doubles, which it cannot compute with. So does planning by the built-in rules for every
number of days that it reads. -/
theorem Planner.reported_unless_beyond {σ : Type} :
    (∀ c, (Plan.Reported (Plan.validate c) ↔ ¬ Plan.Boundless c) ∧
      (Plan.Boundless c → Plan.validate c = .error (.arithmetic .intTooLarge))) ∧
    ∀ (p : Planner σ) (question day : String) (s : σ), p.mode = .rules →
      ∃ outcome, p.plan question day s = (outcome, s) ∧
        ((∃ n, Phrase.days (Draft.wording question) = .ok n ∧
          (Plan.Reported outcome ↔ n < Double.beyond) ∧
          (Double.beyond ≤ n → outcome = .error (.arithmetic .intTooLarge))) ∨
        ∃ count, Json.maxDigits < count ∧
          Phrase.days (Draft.wording question) = .error (.tooManyDigits count) ∧
          outcome = .error (.tooManyDigits count)) := by
  have unreported : ¬ Plan.Reported (.error (.arithmetic .intTooLarge)) := by
    rintro (⟨p, ⟨⟩⟩ | ⟨found, -, ⟨⟩⟩)
  constructor
  · intro c
    rcases Plan.validate_ends c with ⟨reported, bounded⟩ | ⟨failed, boundless⟩
    · exact ⟨iff_of_true reported bounded, fun boundless => absurd boundless bounded⟩
    · rw [failed]
      exact ⟨iff_of_false unreported (not_not_intro boundless), fun _ => rfl⟩
  · intro p question day s rules
    refine ⟨Draft.checked question, p.plan_rules rules question day s, ?_⟩
    rcases Draft.checked_ends question with ⟨n, days, ends⟩ | overlong
    · refine Or.inl ⟨n, days, ?_⟩
      rcases ends with ⟨reported, small⟩ | ⟨failed, large⟩
      · exact ⟨iff_of_true reported small, fun large => absurd small (not_lt.mpr large)⟩
      · rw [failed]
        exact ⟨iff_of_false unreported (not_lt.mpr large), fun _ => rfl⟩
    · exact Or.inr overlong

/-- A window of four hundred and one digits fails the check without a report; a question for a week
is planned. -/
theorem Planner.reported_week_not_eons :
    Plan.validate (Plan.toValue { Plan.weekPlan with days := 10 ^ 400 }) =
        .error (.arithmetic .intTooLarge) ∧
      Plan.Reported (Planner.plan ⟨.rules, none, .null⟩ "users of the last 7 days" "" ()).1 := by
  have large : Double.beyond ≤ 10 ^ 400 := by decide +kernel
  have boundless := (Plan.boundless_toValue_iff { Plan.weekPlan with days := 10 ^ 400 }).mpr large
  have read : (Phrase.days (Draft.wording "users of the last 7 days")).toOption = some 7 := by
    decide
  obtain ⟨candidates, questions⟩ := Planner.reported_unless_beyond (σ := Unit)
  refine ⟨(candidates _).2 boundless, ?_⟩
  obtain ⟨outcome, planned, ⟨n, days, reported, -⟩ | ⟨count, -, days, -⟩⟩ :=
    questions ⟨.rules, none, .null⟩ "users of the last 7 days" "" () rfl <;> rw [days] at read
  · cases read
    rw [planned]
    exact reported.mpr (by decide +kernel)
  · cases read

end MetricDesk
