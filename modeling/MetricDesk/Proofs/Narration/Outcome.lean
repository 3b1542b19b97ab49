import MetricDesk.Proofs.Narration.Verdict
import MetricDesk.Proofs.Number.Whole
import MetricDesk.Proofs.Result.Revalidation

/-! How a narration can fail. Main statement: `Narrator.narrate_error_iff`, the narration of a result
that has passed its check fails only if the model does, or if a whole number beyond the range of
doubles stands in the result. -/
namespace MetricDesk
open Leaves (Leaf Fits)

/-! ### The whole numbers of a result -/

@[simp]
theorem Leaves.not_leaf_obj_nil {n : Number} : ¬ Leaf (.obj []) n := by
  rw [leaf_obj]
  rintro ⟨k, v, ⟨⟩, -⟩

@[simp]
theorem Leaves.not_leaf_str {s : String} {n : Number} : ¬ Leaf (.str s) n := by
  rintro ⟨⟩

namespace Value

mutual

/-- The wire form keeps the whole numbers of a value and adds none. -/
theorem leaf_int_wire (v : Value) (k : Int) : Leaf v.wire (.int k) ↔ Leaf v (.int k) := by
  match v with
  | .num (.dbl x) =>
    rw [wire]
    cases x.isFinite <;> exact iff_of_false (by rintro ⟨⟩) (by rintro ⟨⟩)
  | .list xs => rw [wire, leaf_int_wireItems xs k]
  | .obj fs => rw [wire, leaf_int_wireFields fs k]
  | .num (.int n) => rfl
  | .null | .bool _ | .str _ => rfl
  | .day _ | .moment _ | .decimal _ | .span _ =>
    exact iff_of_false (by rintro ⟨⟩) (by rintro ⟨⟩)

theorem leaf_int_wireItems (xs : List Value) (k : Int) :
    Leaf (.list (wireItems xs)) (.int k) ↔ Leaf (.list xs) (.int k) := by
  match xs with
  | [] => rfl
  | x :: xs =>
    rw [wireItems, Leaves.leaf_cons, Leaves.leaf_cons, leaf_int_wire x k, leaf_int_wireItems xs k]

theorem leaf_int_wireFields (fs : List (String × Value)) (k : Int) :
    Leaf (.obj (wireFields fs)) (.int k) ↔ Leaf (.obj fs) (.int k) := by
  match fs with
  | [] => rfl
  | (key, v) :: fs =>
    rw [wireFields, leaf_field, leaf_field, leaf_int_wire v k, leaf_int_wireFields fs k]

end

end Value

/-- The whole numbers of a plan are its days and those that its filters compare with. -/
theorem Plan.leaf_int_toValue {p : Plan} {k : Int} :
    Leaf p.toValue (.int k) ↔ k = p.days ∨ ∃ f ∈ p.filters, f.value = .number (.int k) := by
  have filter (f : Filter) : Leaf f.toValue (.int k) ↔ f.value = .number (.int k) := by
    obtain ⟨field, op, value⟩ := f
    cases value with
    | text s => simp [Filter.toValue, FilterValue.toValue, Value.leaf_field]
    | number n =>
      simp [Filter.toValue, FilterValue.toValue, Value.leaf_field, Leaves.leaf_num, eq_comm]
  simp [Plan.toValue, Plan.toFields, Value.leaf_field, Leaves.leaf_list, Value.nat, Leaves.leaf_num,
    filter]

namespace Result

/-- A whole number beyond the range of doubles stands in a filter of the plan or in a row. -/
def Overlarge (r : Result) : Prop :=
  ∃ k : Int, Double.beyond ≤ k.natAbs ∧ ((∃ f ∈ r.plan.filters, f.value = .number (.int k)) ∨
    ∃ row ∈ r.table ++ r.attribution, Leaf (.obj row) (.int k))

theorem leaf_int_toValue {r : Result} {k : Int} : Leaf r.toValue (.int k) ↔
    Leaf r.plan.toValue (.int k) ∨ ∃ row ∈ r.table ++ r.attribution, Leaf (.obj row) (.int k) := by
  have double (o : Option Double) : ¬ Leaf (.ofDouble? o) (.int k) := by
    cases o with
    | none => rintro ⟨⟩
    | some x => rintro ⟨⟩
  have point (p : Point) : ¬ Leaf p.toValue (.int k) := by
    simp [Point.toValue, Value.leaf_field, Value.dbl, Leaves.leaf_num]
  have summary : ¬ Leaf r.summary.toValue (.int k) := by
    simp [Summary.toValue, Value.leaf_field, Value.dbl, Leaves.leaf_num, double]
  simp [toValue, toFields, Value.leaf_field, Leaves.leaf_list, summary, point,
    Value.leaf_int_wireFields, or_and_right, exists_or]

theorem fits_toValue_iff {r : Result} (valid : r.plan.Valid) : Fits r.toValue ↔ ¬ r.Overlarge := by
  have small : ((r.plan.days : Int)).natAbs < Double.beyond := by
    have := valid.limited
    have limit : maxWindowDays < Double.beyond := by decide +kernel
    rw [Int.natAbs_natCast]
    omega
  unfold Fits Overlarge
  simp only [leaf_int_toValue, Plan.leaf_int_toValue, Double.isFinite_ofInt_natAbs]
  constructor
  · rintro fits ⟨k, beyond, filter | row⟩
    · exact absurd (fits k (.inl (.inr filter))) (Nat.not_lt.mpr beyond)
    · exact absurd (fits k (.inr row)) (Nat.not_lt.mpr beyond)
  · rintro inRange k ((rfl | filter) | row)
    · exact small
    · by_contra beyond
      exact inRange ⟨k, Nat.not_lt.mp beyond, .inl filter⟩
    · by_contra beyond
      exact inRange ⟨k, Nat.not_lt.mp beyond, .inr row⟩

theorem fits_of_validate {c : Value} {r : Result} (passed : validate c = .ok r) :
    Fits r.toValue ↔ ¬ r.Overlarge := by
  cases c with
  | obj fields => exact fits_toValue_iff (admitted_of_validate passed).plan
  | _ => cases (of_validate passed).2

end Result

/-! ### The ends of a narration -/

namespace Narrator
variable {σ : Type} {n : Narrator σ} {r : Result} {maxTokens : Value} {s : σ}

/-- Only a model fails to come up with a text. -/
theorem draft_error_iff {failure : Failure} {s' : σ} :
    n.draft r maxTokens s = (.error failure, s') ↔ ∃ model, n.mode = .model ∧
      n.model = some model ∧ model.text (Prompt.narration r)
        (if maxTokens.isEmpty then n.tokensFor r else maxTokens) s = (.error failure, s') := by
  unfold draft
  cases n.mode with
  | rules => exact iff_of_false (by rintro ⟨⟩) (by rintro ⟨model, ⟨⟩, -⟩)
  | model =>
    cases n.model with
    | none => exact iff_of_false (by rintro ⟨⟩) (by rintro ⟨model, -, ⟨⟩, -⟩)
    | some model => simp

/-- A text is told, or its fallback is, unless a number of the result is too large to be checked
against. -/
theorem told_of_draft {text : String} {s' : σ} (drafted : n.draft r maxTokens s = (.ok text, s')) :
    (Fits r.toValue → ∃ told, n.narrate r maxTokens s = (.ok told, s')) ∧
      (¬ Fits r.toValue → n.narrate r maxTokens s = (.error (.arithmetic .intTooLarge), s')) := by
  have told : n.narrate r maxTokens s = (Narration.ofText r text, s') := by
    rw [narrate_apply, drafted]
  rw [told]
  constructor
  · intro fits
    rw [Grounding.ofText_eq fits]
    exact ⟨_, rfl⟩
  · intro fitsNot
    rw [Grounding.ofText_error fitsNot]

/-- The narration of a result that has passed its check fails iff the model does, with the model's
own failure, or there is a text to be checked against a number that no double can hold. Without
such a number every text is told, or the fallback is. -/
theorem narrate_error_iff {c : Value} (passed : Result.validate c = .ok r) (n : Narrator σ)
    (maxTokens : Value) (s : σ) :
    (∀ failure s', n.narrate r maxTokens s = (.error failure, s') ↔
      (∃ model, n.mode = .model ∧ n.model = some model ∧ model.text (Prompt.narration r)
        (if maxTokens.isEmpty then n.tokensFor r else maxTokens) s = (.error failure, s')) ∨
      (r.Overlarge ∧ failure = .arithmetic .intTooLarge ∧
        ∃ text, n.draft r maxTokens s = (.ok text, s'))) ∧
      (¬ r.Overlarge → ∀ text s', n.draft r maxTokens s = (.ok text, s') →
        ∃ told, n.narrate r maxTokens s = (.ok told, s')) := by
  have fits := Result.fits_of_validate passed
  constructor
  · intro failure s'
    rw [← draft_error_iff]
    -- Without a text the failure is passed on; with one only the check can fail.
    cases drafted : n.draft r maxTokens s with
    | mk found after =>
      cases found with
      | error own =>
        have fails : n.narrate r maxTokens s = (.error own, after) := by
          rw [narrate_apply, drafted]
        rw [fails]
        constructor
        · intro same
          obtain ⟨fault, rfl⟩ := Prod.mk.inj same
          rw [Except.error.inj fault]
          exact .inl rfl
        · rintro (drafts | ⟨-, -, text, drafts⟩)
          · obtain ⟨fault, rfl⟩ := Prod.mk.inj drafts
            rw [Except.error.inj fault]
          · cases (Prod.mk.inj drafts).1
      | ok text =>
        obtain ⟨tells, fails⟩ := told_of_draft drafted
        by_cases large : r.Overlarge
        · rw [fails fun fine => fits.mp fine large]
          constructor
          · intro same
            obtain ⟨failure, rfl⟩ := Prod.mk.inj same
            exact .inr ⟨large, (Except.error.inj failure).symm, text, rfl⟩
          · rintro (drafts | ⟨-, rfl, other, drafts⟩)
            · cases (Prod.mk.inj drafts).1
            · rw [(Prod.mk.inj drafts).2]
        · obtain ⟨told, done⟩ := tells (fits.mpr large)
          rw [done]
          constructor
          · intro same
            cases (Prod.mk.inj same).1
          · rintro (drafts | ⟨tooLarge, -⟩)
            · cases (Prod.mk.inj drafts).1
            · exact absurd tooLarge large
  · intro small text s' drafted
    exact (told_of_draft drafted).1 (fits.mpr small)

/-- A narrator without a model. -/
def byRules : Narrator Unit := ⟨.rules, none, .int 180, .int 600⟩

/-- An empty result whose filter compares with a whole number. -/
def atLeast (k : Nat) : Result where
  question := "big spenders"
  tenant := "game-1"
  plan := { Plan.weekPlan with filters := [⟨"revenue", ">=", .number (.int k)⟩] }
  summary := ⟨.zero, none, none, none⟩
  series := []
  table := []
  attribution := []
  confidence := .high

theorem validate_atLeast (k : Nat) : Result.validate (atLeast k).toValue = .ok (atLeast k) := by
  have week : Plan.weekPlan.Valid := by
    have passed : Plan.validate Plan.weekPlan.toValue = .ok Plan.weekPlan := by rfl
    exact Plan.valid_of_validate passed
  have filled : Clause.isFilled (.str "revenue") = true ∧ Clause.isFilled (.str ">=") = true ∧
      Clause.isFilled (.str "big spenders") = true ∧ Clause.isFilled (.str "game-1") = true := by
    decide
  obtain ⟨field, op, question, tenant⟩ := filled
  have valid : (atLeast k).plan.Valid := by
    refine { game := week.game, positive := week.positive, limited := week.limited,
             supported := week.supported, filters := ?_ }
    intro f mem
    obtain rfl := List.mem_singleton.mp mem
    refine ⟨field, op, ?_⟩
    rintro n same
    cases same
    rfl
  have cleared : (atLeast k).Cleared := by
    refine { question, tenant, summary := ?_, series := by rintro p ⟨⟩,
             table := by rintro row ⟨⟩, attribution := by rintro row ⟨⟩ }
    intro x mem
    obtain rfl := List.mem_singleton.mp mem
    rfl
  exact (Result.validate_cleared valid).1 cleared

/-- Up to the least number that no double is near the sentence is told; that number passes the check
of the result as well, and then no sentence is told at all. -/
theorem narrate_atLeast :
    (Result.validate (atLeast (Double.beyond - 1)).toValue = .ok (atLeast (Double.beyond - 1)) ∧
      ∃ told, byRules.narrate (atLeast (Double.beyond - 1)) .null () = (.ok told, ())) ∧
    Result.validate (atLeast Double.beyond).toValue = .ok (atLeast Double.beyond) ∧
      byRules.narrate (atLeast Double.beyond) .null () =
        (.error (.arithmetic .intTooLarge), ()) := by
  have drafted (k : Nat) :
      byRules.draft (atLeast k) .null () = (.ok (Fallback.sentence (atLeast k)), ()) := rfl
  have small : ¬ (atLeast (Double.beyond - 1)).Overlarge := by
    rintro ⟨k, beyond, ⟨f, mem, same⟩ | ⟨row, ⟨⟩, -⟩⟩
    obtain rfl := List.mem_singleton.mp mem
    cases same
    have positive : 0 < Double.beyond := by decide +kernel
    rw [Int.natAbs_natCast] at beyond
    generalize Double.beyond = limit at beyond positive
    omega
  have large : (atLeast Double.beyond).Overlarge :=
    ⟨Double.beyond, (Int.natAbs_natCast _).ge, .inl ⟨_, List.mem_singleton_self _, rfl⟩⟩
  refine ⟨⟨validate_atLeast _, ?_⟩, validate_atLeast _, ?_⟩
  · exact (narrate_error_iff (validate_atLeast _) byRules .null ()).2 small _ _ (drafted _)
  · apply ((narrate_error_iff (validate_atLeast _) byRules .null ()).1 _ _).mpr
    exact .inr ⟨large, rfl, _, drafted Double.beyond⟩

end Narrator
end MetricDesk
