import Mathlib.Algebra.Order.Field.Power
import Mathlib.Tactic.FieldSimp
import Mathlib.Tactic.Linarith
import Mathlib.Tactic.LinearCombination
import Mathlib.Tactic.Positivity
import Mathlib.Tactic.Ring
import MetricDesk.Number.Digits

/-! The double nearest to a quotient. Every positive double has an interval of quotients around it;
`ofRatio_of_contains` says that each quotient inside is rounded to that double. -/
namespace MetricDesk

/-- The point lies in the interval, measured in quarters of the significand's unit. -/
def Digits.Interval.Contains (i : Digits.Interval) (y : ℚ) : Prop :=
  if i.closed then (i.low : ℚ) ≤ y ∧ y ≤ i.high else (i.low : ℚ) < y ∧ y < i.high

namespace Double
open Digits (intervalOf)

/-- The size of a finite double. -/
def size (m : Nat) (e : Int) : ℚ := m * 2 ^ e

theorem two_zpow_pos (e : Int) : (0 : ℚ) < 2 ^ e := zpow_pos (by norm_num) e

theorem two_zpow_sub (a b : Int) : (2 : ℚ) ^ (a - b) = 2 ^ a / 2 ^ b :=
  zpow_sub₀ (by norm_num) a b

theorem quotient_pos (m : Nat) (e : Int) : 0 < (quotient m e).2 := by
  unfold quotient
  split
  · exact Nat.one_pos
  · exact Nat.two_pow_pos _

theorem quotient_size (m : Nat) (e : Int) :
    ((quotient m e).1 : ℚ) / (quotient m e).2 = size m e := by
  unfold quotient size
  split
  · simp
  · rw [zpow_negSucc, Nat.pow_eq]
    push_cast
    field_simp

theorem scale_pos (n : Nat) {d : Nat} (hd : 0 < d) (e : Int) : 0 < (scale n d e).2 := by
  unfold scale
  split
  · exact Nat.mul_pos hd (Nat.two_pow_pos _)
  · exact hd

theorem scale_quotient (n d : Nat) (e : Int) :
    ((scale n d e).1 : ℚ) / (scale n d e).2 = n / d / 2 ^ e := by
  unfold scale
  split
  · rw [Nat.pow_eq]
    push_cast
    rw [Int.ofNat_eq_natCast, zpow_natCast, div_div]
  · rw [zpow_negSucc, Nat.pow_eq]
    push_cast
    rw [div_inv_eq_mul, div_mul_eq_mul_div]

/-! ### The exponent of a quotient -/

/-- The binary lengths of both sides bound a quotient. -/
theorem log2_bounds {n d : Nat} (hn : 0 < n) (hd : 0 < d) :
    (2 : ℚ) ^ ((n.log2 : Int) - d.log2 - 1) < n / d ∧
      (n : ℚ) / d < 2 ^ ((n.log2 : Int) - d.log2 + 1) := by
  have nLow : (2 : ℚ) ^ (n.log2 : Int) ≤ n := by
    exact_mod_cast Nat.log2_self_le (Nat.ne_of_gt hn)
  have nHigh : (n : ℚ) < 2 ^ ((n.log2 : Int) + 1) := by
    exact_mod_cast Nat.lt_log2_self (n := n)
  have dLow : (2 : ℚ) ^ (d.log2 : Int) ≤ d := by
    exact_mod_cast Nat.log2_self_le (Nat.ne_of_gt hd)
  have dHigh : (d : ℚ) < 2 ^ ((d.log2 : Int) + 1) := by
    exact_mod_cast Nat.lt_log2_self (n := d)
  have dPos : (0 : ℚ) < d := by exact_mod_cast hd
  constructor
  · rw [lt_div_iff₀ dPos]
    calc (2 : ℚ) ^ ((n.log2 : Int) - d.log2 - 1) * d
        < 2 ^ ((n.log2 : Int) - d.log2 - 1) * 2 ^ ((d.log2 : Int) + 1) :=
          mul_lt_mul_of_pos_left dHigh (two_zpow_pos _)
      _ = 2 ^ (n.log2 : Int) := by rw [← zpow_add₀ (by norm_num)]; congr 1; ring
      _ ≤ n := nLow
  · rw [div_lt_iff₀ dPos]
    calc (n : ℚ) < 2 ^ ((n.log2 : Int) + 1) := nHigh
      _ = 2 ^ ((n.log2 : Int) - d.log2 + 1) * 2 ^ (d.log2 : Int) := by
          rw [← zpow_add₀ (by norm_num)]; congr 1; ring
      _ ≤ 2 ^ ((n.log2 : Int) - d.log2 + 1) * d :=
          mul_le_mul_of_nonneg_left dLow (two_zpow_pos _).le

/-- A scaled quotient is below a whole number exactly if the fraction says so. -/
theorem scale_lt_iff {n d : Nat} (hd : 0 < d) (e : Int) (k : Nat) :
    (scale n d e).1 < k * (scale n d e).2 ↔ (n : ℚ) / d / 2 ^ e < k := by
  have pos : (0 : ℚ) < (scale n d e).2 := by exact_mod_cast scale_pos n hd e
  rw [← scale_quotient, div_lt_iff₀ pos]
  exact_mod_cast Iff.rfl

/-- The exponent that gives a quotient fifty-three bits, unless it is below the least one. -/
theorem exponentFor_eq {n d : Nat} (hn : 0 < n) (hd : 0 < d) {e : Int}
    (low : (2 : ℚ) ^ 52 ≤ n / d / 2 ^ e) (high : (n : ℚ) / d / 2 ^ e < 2 ^ 53) :
    exponentFor n d = max e (-1074) := by
  obtain ⟨below, above⟩ := log2_bounds hn hd
  rw [le_div_iff₀ (two_zpow_pos e), ← zpow_natCast, ← zpow_add₀ (by norm_num)] at low
  rw [div_lt_iff₀ (two_zpow_pos e), ← zpow_natCast, ← zpow_add₀ (by norm_num)] at high
  have le : e ≤ (n.log2 : Int) - d.log2 - 52 := by
    have := (zpow_lt_zpow_iff_right₀ (by norm_num : (1 : ℚ) < 2)).mp (low.trans_lt above)
    omega
  have ge : (n.log2 : Int) - d.log2 - 52 ≤ e + 1 := by
    have := (zpow_lt_zpow_iff_right₀ (by norm_num : (1 : ℚ) < 2)).mp (below.trans high)
    omega
  simp only [exponentFor, Nat.pow_eq]
  rcases (by omega : (n.log2 : Int) - d.log2 - 52 = e ∨ (n.log2 : Int) - d.log2 - 52 = e + 1)
    with same | next
  · have notBelow : ¬ (scale n d e).1 < 2 ^ 52 * (scale n d e).2 := by
      rw [scale_lt_iff hd, div_lt_iff₀ (two_zpow_pos e), not_lt]
      calc ((2 ^ 52 : Nat) : ℚ) * 2 ^ e = 2 ^ ((52 : Int) + e) := by
            rw [zpow_add₀ (by norm_num)]; norm_num
        _ ≤ n / d := low
    simp only [same, notBelow, if_false]
  · have isBelow : (scale n d (e + 1)).1 < 2 ^ 52 * (scale n d (e + 1)).2 := by
      rw [scale_lt_iff hd, div_lt_iff₀ (two_zpow_pos (e + 1))]
      calc (n : ℚ) / d < 2 ^ ((53 : Int) + e) := high
        _ = ((2 ^ 52 : Nat) : ℚ) * 2 ^ (e + 1) := by
            rw [show (53 : Int) + e = 52 + (e + 1) by ring, zpow_add₀ (by norm_num)]; norm_num
    simp only [next, isBelow, if_true, add_sub_cancel_right]

/-- Below the least binade every quotient has the least exponent. -/
theorem exponentFor_least {n d : Nat} (hn : 0 < n) (hd : 0 < d)
    (small : (n : ℚ) / d / 2 ^ (-1074 : Int) < 2 ^ 52) : exponentFor n d = -1074 := by
  obtain ⟨below, -⟩ := log2_bounds hn hd
  rw [div_lt_iff₀ (two_zpow_pos _), ← zpow_natCast, ← zpow_add₀ (by norm_num)] at small
  have := (zpow_lt_zpow_iff_right₀ (by norm_num : (1 : ℚ) < 2)).mp (below.trans small)
  simp only [exponentFor]
  split <;> omega

/-! ### Rounding to the significand -/

/-- A quotient within half of a whole number is rounded to it, at exactly half if it is even. -/
theorem halfEven_eq {a b m : Nat} (hb : 0 < b) (low : (m : ℚ) - 1 / 2 ≤ a / b)
    (high : (a : ℚ) / b ≤ m + 1 / 2)
    (strict : m % 2 = 1 → (m : ℚ) - 1 / 2 < a / b ∧ (a : ℚ) / b < m + 1 / 2) :
    Rounding.halfEven a b = m := by
  have pos : (0 : ℚ) < b := by exact_mod_cast hb
  have lowNat : 2 * (m * b) ≤ 2 * a + b := by
    rw [le_div_iff₀ pos] at low
    exact_mod_cast (by linarith : (2 : ℚ) * (m * b) ≤ 2 * a + b)
  have highNat : 2 * a ≤ 2 * (m * b) + b := by
    rw [div_le_iff₀ pos] at high
    exact_mod_cast (by linarith : (2 : ℚ) * a ≤ 2 * (m * b) + b)
  have strictNat : m % 2 = 1 → 2 * (m * b) < 2 * a + b ∧ 2 * a < 2 * (m * b) + b := by
    intro odd
    obtain ⟨above, below⟩ := strict odd
    rw [lt_div_iff₀ pos] at above
    rw [div_lt_iff₀ pos] at below
    constructor
    · exact_mod_cast (by linarith : (2 : ℚ) * (m * b) < 2 * a + b)
    · exact_mod_cast (by linarith : (2 : ℚ) * a < 2 * (m * b) + b)
  have split : b * (a / b) + a % b = a := Nat.div_add_mod a b
  have small := Nat.mod_lt a hb
  rw [Nat.mul_comm] at split
  unfold Rounding.halfEven
  rcases Nat.lt_trichotomy (a / b) m with less | same | more
  · have next : m = a / b + 1 := by
      by_contra far
      have := Nat.mul_le_mul_right b (by omega : a / b + 2 ≤ m)
      rw [Nat.add_mul] at this
      omega
    rw [next, Nat.add_mul] at lowNat strictNat
    simp only
    split_ifs <;> omega
  · rw [← same] at highNat strictNat
    simp only
    split_ifs <;> omega
  · have := Nat.mul_le_mul_right b (by omega : m + 1 ≤ a / b)
    rw [Nat.add_mul] at this
    omega

/-! ### The interval of a double -/

theorem contains_bounds {m : Nat} {e : Int} {y : ℚ} (hm : 0 < m)
    (inside : (intervalOf m e).Contains (4 * y)) :
    (m : ℚ) - 1 / 2 ≤ y ∧ y ≤ m + 1 / 2 ∧
      (m % 2 = 1 → (m : ℚ) - 1 / 2 < y ∧ y < m + 1 / 2) ∧
      (m = 2 ^ 52 → e ≠ -1074 → (m : ℚ) - 1 / 4 ≤ y) := by
  have lowest : ((4 * m - 2 : Nat) : ℚ) = 4 * m - 2 := by
    rw [Nat.cast_sub (by omega)]; push_cast; ring
  have lower : ((4 * m - 1 : Nat) : ℚ) = 4 * m - 1 := by
    rw [Nat.cast_sub (by omega)]; push_cast; ring
  unfold Digits.Interval.Contains intervalOf at inside
  simp only [beq_iff_eq] at inside
  split_ifs at inside with even narrow narrow <;> obtain ⟨low, high⟩ := inside <;> push_cast at high
  · rw [lower] at low
    exact ⟨by linarith, by linarith, fun odd => absurd odd (by omega), fun _ _ => by linarith⟩
  · rw [lowest] at low
    exact ⟨by linarith, by linarith, fun odd => absurd odd (by omega),
      fun least ne => absurd ⟨least, ne⟩ narrow⟩
  · rw [lower] at low
    exact ⟨by linarith, by linarith, fun _ => ⟨by linarith, by linarith⟩, fun _ _ => by linarith⟩
  · rw [lowest] at low
    exact ⟨by linarith, by linarith, fun _ => ⟨by linarith, by linarith⟩,
      fun least ne => absurd ⟨least, ne⟩ narrow⟩

theorem pack_eq {m : Nat} {e : Int} (h : Canonical m e) (s : Bool) :
    pack s m e = .finite s m e h := dif_pos h

/-- One past the greatest significand is the least one of the next binade. -/
theorem pack_next {e : Int} (h : Canonical (2 ^ 52) (e + 1)) (s : Bool) :
    pack s (2 ^ 53) e = .finite s (2 ^ 52) (e + 1) h := by
  have notCanonical : ¬ Canonical (2 ^ 53) e := fun c => Nat.lt_irrefl _ c.1
  rw [pack, dif_neg notCanonical, dif_pos ⟨rfl, h⟩]
  rfl

theorem ofRatio_of_exponent {n d m : Nat} {e : Int} (hn : 0 < n) (hd : 0 < d)
    (exponent : exponentFor n d = e) (low : (m : ℚ) - 1 / 2 ≤ n / d / 2 ^ e)
    (high : (n : ℚ) / d / 2 ^ e ≤ m + 1 / 2)
    (strict : m % 2 = 1 → (m : ℚ) - 1 / 2 < n / d / 2 ^ e ∧ (n : ℚ) / d / 2 ^ e < m + 1 / 2)
    (s : Bool) : ofRatio s n d = pack s m e := by
  have rounded : Rounding.halfEven (scale n d e).1 (scale n d e).2 = m := by
    apply halfEven_eq (scale_pos n hd e) <;> rw [scale_quotient] <;> assumption
  rw [ofRatio, if_neg (Nat.ne_of_gt hn)]
  simp only [exponent, rounded]

/-- Every quotient in the interval of a double is rounded to it. -/
theorem ofRatio_of_contains {m n d : Nat} {e : Int} (h : Canonical m e) (hm : 0 < m)
    (hn : 0 < n) (hd : 0 < d) (inside : (intervalOf m e).Contains (n / d / 2 ^ (e - 2)))
    (s : Bool) : ofRatio s n d = .finite s m e h := by
  have quarters : (n : ℚ) / d / 2 ^ (e - 2) = 4 * (n / d / 2 ^ e) := by
    rw [two_zpow_sub]
    field_simp
    norm_num
  have half : (n : ℚ) / d / 2 ^ (e - 1) = 2 * (n / d / 2 ^ e) := by
    rw [two_zpow_sub]
    field_simp
  rw [quarters] at inside
  obtain ⟨low, high, strict, narrow⟩ := contains_bounds hm inside
  obtain ⟨below, least, -, normal⟩ := id h
  rw [Nat.pow_eq] at normal
  have mBelow : (m : ℚ) + 1 ≤ 2 ^ 53 := by exact_mod_cast below
  -- The exponent is that of the double, except just below a power of two.
  have direct (exponent : exponentFor n d = e) : ofRatio s n d = .finite s m e h := by
    rw [ofRatio_of_exponent hn hd exponent low high strict, pack_eq h]
  by_cases first : e = -1074
  · apply direct
    subst first
    by_cases reached : (2 : ℚ) ^ 52 ≤ n / d / 2 ^ (-1074 : Int)
    · rw [exponentFor_eq hn hd reached (lt_of_le_of_lt high (by linarith)), max_self]
    · exact exponentFor_least hn hd (not_le.mp reached)
  · have exponentHere := exponentFor_eq hn hd (e := e)
    have exponentBelow := exponentFor_eq hn hd (e := e - 1)
    have roundedBelow := ofRatio_of_exponent hn hd (m := 2 ^ 53) (e := e - 1)
    rw [half] at exponentBelow roundedBelow
    generalize (n : ℚ) / d / 2 ^ e = y at low high narrow exponentHere exponentBelow roundedBelow
    by_cases reached : (2 : ℚ) ^ 52 ≤ y
    · apply direct
      rw [exponentHere reached (by linarith), max_eq_left least]
    · have power : m = 2 ^ 52 := by
        by_contra other
        have : (2 : ℚ) ^ 52 + 1 ≤ m := by exact_mod_cast (by omega : 2 ^ 52 + 1 ≤ m)
        linarith
      subst power
      have quarter := narrow rfl first
      push_cast at quarter
      have exponent : exponentFor n d = e - 1 := by
        rw [exponentBelow (by linarith) (by linarith), max_eq_left (by omega)]
      have next : Canonical (2 ^ 52) (e - 1 + 1) := by rwa [sub_add_cancel]
      rw [roundedBelow exponent (by push_cast; linarith) (by push_cast; linarith) (by omega),
        pack_next next]
      simp only [sub_add_cancel]

end Double
end MetricDesk
