import Mathlib.Order.WithBot
import MetricDesk.Proofs.Number.Nearest

/-! The order of doubles. Main statements: `lt_iff_place` and `le_iff_place`, what is a number has a
place in a linear order, and comparisons compare the places. -/
namespace MetricDesk.Double

theorem isNan_abs (x : Double) : x.abs.isNan = x.isNan := by
  cases x <;> rfl

theorem isNan_of_isFinite {x : Double} (finite : x.isFinite = true) : x.isNan = false := by
  cases x with
  | nan => cases finite
  | infinite | finite => rfl

/-- What a finite double stands for. -/
def signed (neg : Bool) (m : Nat) (e : Int) : ℚ := if neg then -size m e else size m e

/-- The place of a double between the infinities. What is no number has none and is put with the
zeros. -/
def place : Double → WithBot (WithTop ℚ)
  | .nan => 0
  | .infinite true => ⊥
  | .infinite false => ⊤
  | .finite s m e _ => ((signed s m e : WithTop ℚ) : WithBot (WithTop ℚ))

theorem inUnits_mul (s : Bool) (m : Nat) {e unit : Int} (fine : unit ≤ e) :
    (inUnits s m e unit : ℚ) * 2 ^ unit = signed s m e := by
  have exponent : ((e - unit).toNat : Int) = e - unit := Int.toNat_of_nonneg (by omega)
  have whole : ((m * Nat.pow 2 (e - unit).toNat : Int) : ℚ) * 2 ^ unit = size m e := by
    rw [Nat.pow_eq, size]
    push_cast
    rw [← zpow_natCast, exponent, two_zpow_sub, mul_assoc, div_mul_cancel₀ _ (two_zpow_pos unit).ne']
  cases s with
  | true => simp only [inUnits, signed, if_true, ← whole, Int.cast_neg, neg_mul]
  | false => simp only [inUnits, signed, Bool.false_eq_true, if_false, whole]

theorem compareFinite_iff (s t : Bool) (m n : Nat) (e f : Int) :
    (compareFinite s m e t n f = .lt ↔ signed s m e < signed t n f) ∧
      (compareFinite s m e t n f = .eq ↔ signed s m e = signed t n f) := by
  have pos := two_zpow_pos (min e f)
  rw [compareFinite, compare_lt_iff_lt, compare_eq_iff_eq,
    ← inUnits_mul s m (Int.min_le_left e f), ← inUnits_mul t n (Int.min_le_right e f)]
  constructor
  · rw [mul_lt_mul_iff_left₀ pos, Int.cast_lt]
  · rw [mul_left_inj' pos.ne', Int.cast_inj]

/-- Comparing two numbers compares their places. -/
theorem compare?_iff_place {x y : Double} (numberX : x.isNan = false) (numberY : y.isNan = false) :
    (x.compare? y = some .lt ↔ x.place < y.place) ∧
      (x.compare? y = some .eq ↔ x.place = y.place) := by
  cases x with
  | nan => cases numberX
  | infinite s =>
    cases y with
    | nan => cases numberY
    | infinite t =>
      cases s <;> cases t <;> simp [compare?, place, compare_lt_iff_lt]
    | finite t n f _ => cases s <;> simp [compare?, place]
  | finite s m e _ =>
    cases y with
    | nan => cases numberY
    | infinite t =>
      have below : ((signed s m e : WithTop ℚ) : WithBot (WithTop ℚ)) < ⊤ :=
        WithBot.coe_lt_coe.mpr (WithTop.coe_lt_top _)
      cases t with
      | true => simp [compare?, place]
      | false => simp [compare?, place, below, below.ne]
    | finite t n f _ =>
      simp only [compare?, place, Option.some.injEq, WithBot.coe_lt_coe, WithTop.coe_lt_coe,
        WithBot.coe_inj, WithTop.coe_inj]
      exact compareFinite_iff s t m n e f

theorem lt_iff_place {x y : Double} (numberX : x.isNan = false) (numberY : y.isNan = false) :
    x.lt y = true ↔ x.place < y.place := by
  rw [lt, beq_iff_eq]
  exact (compare?_iff_place numberX numberY).1

theorem le_iff_place {x y : Double} (numberX : x.isNan = false) (numberY : y.isNan = false) :
    x.le y = true ↔ x.place ≤ y.place := by
  obtain ⟨less, same⟩ := compare?_iff_place numberX numberY
  rw [le, Bool.or_eq_true, beq_iff_eq, beq_iff_eq, less, same, le_iff_lt_or_eq]

end MetricDesk.Double
