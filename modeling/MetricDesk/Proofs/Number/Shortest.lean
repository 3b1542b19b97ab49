import MetricDesk.Proofs.Number.Nearest

/-! The fewest digits of a double. Main statement: `ofDecimal_shortest`, they read back as the
double they were chosen for. -/
namespace MetricDesk.Digits

/-- The exact value of a decimal. -/
def Decimal.value (d : Decimal) : ℚ := d.coefficient * 10 ^ d.exponent

theorem ten_zpow_pos (e : Int) : (0 : ℚ) < 10 ^ e := zpow_pos (by norm_num) e

/-! ### The place of the first digit -/

/-- A power of ten is at most a power of two. -/
def powerFits : Int → Int → Bool
  | .ofNat t, .ofNat b => 10 ^ t ≤ 2 ^ b
  | .negSucc t, .negSucc b => 2 ^ (b + 1) ≤ 10 ^ (t + 1)
  | .negSucc _, .ofNat _ => true
  | .ofNat _, .negSucc _ => false

theorem le_of_powerFits {t b : Int} (h : powerFits t b = true) : (10 : ℚ) ^ t ≤ 2 ^ b := by
  unfold powerFits at h
  split at h
  · rw [Int.ofNat_eq_natCast, Int.ofNat_eq_natCast, zpow_natCast, zpow_natCast]
    exact_mod_cast of_decide_eq_true h
  · rw [zpow_negSucc, zpow_negSucc]
    apply inv_anti₀ (by positivity)
    exact_mod_cast of_decide_eq_true h
  · rw [zpow_negSucc, Int.ofNat_eq_natCast, zpow_natCast]
    exact (inv_le_one_of_one_le₀ (one_le_pow₀ (by norm_num))).trans
      (one_le_pow₀ (by norm_num))
  · simp at h

/-- The estimated place of the first digit is at most one too great, for all binary lengths that
doubles have. -/
theorem estimate_fits (length : Int) (low : -1200 ≤ length) (high : length ≤ 1200) :
    powerFits (Int.fdiv (length * 30103) 100000 - 1) (length - 1) = true := by
  have all : (List.range 2401).all (fun i =>
      powerFits (Int.fdiv (((i : Int) - 1200) * 30103) 100000 - 1) ((i : Int) - 1200 - 1)) =
        true := by
    decide +kernel
  have here := List.all_eq_true.mp all (length + 1200).toNat (List.mem_range.mpr (by omega))
  rwa [show (((length + 1200).toNat : Nat) : Int) - 1200 = length by omega] at here

/-- The power of ten is not greater than the quotient, told by whole numbers. -/
def reaches (n d : Nat) : Int → Bool
  | .ofNat k => d * Nat.pow 10 k ≤ n
  | .negSucc k => d ≤ n * Nat.pow 10 (k + 1)

theorem le_of_reaches {n d : Nat} (hd : 0 < d) {t : Int} (h : reaches n d t = true) :
    (10 : ℚ) ^ t ≤ n / d := by
  have pos : (0 : ℚ) < d := by exact_mod_cast hd
  rw [le_div_iff₀ pos]
  unfold reaches at h
  split at h
  · rw [Int.ofNat_eq_natCast, zpow_natCast, mul_comm]
    exact_mod_cast of_decide_eq_true h
  · rw [zpow_negSucc, inv_mul_le_iff₀ (by positivity), mul_comm]
    exact_mod_cast of_decide_eq_true h

/-- The place of the first digit is not too great. -/
theorem magnitude_le {n d : Nat} (hn : 0 < n) (hd : 0 < d)
    (low : -1200 ≤ (n.log2 : Int) - d.log2) (high : (n.log2 : Int) - d.log2 ≤ 1200) :
    (10 : ℚ) ^ magnitude n d ≤ n / d := by
  unfold magnitude
  simp only
  split_ifs with above here
  · exact le_of_reaches hd above
  · exact le_of_reaches hd here
  · calc (10 : ℚ) ^ (Int.fdiv (((n.log2 : Int) - d.log2) * 30103) 100000 - 1)
        ≤ 2 ^ ((n.log2 : Int) - d.log2 - 1) := le_of_powerFits (estimate_fits _ low high)
      _ ≤ n / d := (Double.log2_bounds hn hd).1.le

/-! ### Points of a grid -/

theorem inUnitsOfTen_quotient (n d : Nat) (p : Int) :
    ((inUnitsOfTen n d p).1 : ℚ) / (inUnitsOfTen n d p).2 = n / d / 10 ^ p := by
  unfold inUnitsOfTen
  split
  · rw [Nat.pow_eq]
    push_cast
    rw [Int.ofNat_eq_natCast, zpow_natCast, div_div]
  · rw [zpow_negSucc, Nat.pow_eq]
    push_cast
    rw [div_inv_eq_mul, div_mul_eq_mul_div]

theorem inUnitsOfTen_pos {n d : Nat} (hn : 0 < n) (hd : 0 < d) (p : Int) :
    0 < (inUnitsOfTen n d p).1 ∧ 0 < (inUnitsOfTen n d p).2 := by
  unfold inUnitsOfTen
  split
  · exact ⟨hn, Nat.mul_pos hd (Nat.pow_pos (by norm_num))⟩
  · exact ⟨Nat.mul_pos hn (Nat.pow_pos (by norm_num)), hd⟩

/-- A quarter of the significand's unit in units of a power of ten. -/
def quarterUnit (e p : Int) : Nat × Nat :=
  match e - 2 with
  | .ofNat k => inUnitsOfTen (2 ^ k) 1 p
  | .negSucc k => inUnitsOfTen 1 (2 ^ (k + 1)) p

theorem quarterUnit_pos (e p : Int) : 0 < (quarterUnit e p).1 ∧ 0 < (quarterUnit e p).2 := by
  unfold quarterUnit
  split <;> exact inUnitsOfTen_pos (by positivity) (by positivity) p

theorem quarterUnit_quotient (e p : Int) :
    ((quarterUnit e p).1 : ℚ) / (quarterUnit e p).2 = 2 ^ (e - 2) / 10 ^ p := by
  unfold quarterUnit
  split <;> rename_i k exponent <;> rw [inUnitsOfTen_quotient, exponent]
  · simp
  · rw [zpow_negSucc]
    push_cast
    rw [one_div]

/-- A point of a grid in quarters of the significand's unit. -/
theorem point_quotient (e p : Int) (point : Nat) :
    (point : ℚ) * 10 ^ p / 2 ^ (e - 2) =
      point * (quarterUnit e p).2 / (quarterUnit e p).1 := by
  have unit := quarterUnit_quotient e p
  have pos : (0 : ℚ) < (quarterUnit e p).1 := by exact_mod_cast (quarterUnit_pos e p).1
  have pos' : (0 : ℚ) < (quarterUnit e p).2 := by exact_mod_cast (quarterUnit_pos e p).2
  have two := Double.two_zpow_pos (e - 2)
  have ten := ten_zpow_pos p
  rw [div_eq_div_iff (ne_of_gt pos') (ne_of_gt ten)] at unit
  rw [div_eq_div_iff (ne_of_gt two) (ne_of_gt pos)]
  linear_combination (point : ℚ) * unit

theorem holds_iff (i : Interval) (e p : Int) (point : Nat) :
    i.holds (quarterUnit e p) point = true ↔ i.Contains (point * 10 ^ p / 2 ^ (e - 2)) := by
  have pos : (0 : ℚ) < (quarterUnit e p).1 := by exact_mod_cast (quarterUnit_pos e p).1
  rw [point_quotient]
  unfold Interval.holds Interval.Contains
  simp only [le_div_iff₀ pos, div_le_iff₀ pos, lt_div_iff₀ pos, div_lt_iff₀ pos]
  split <;> simp only [Bool.and_eq_true, decide_eq_true_eq] <;> norm_cast

theorem nearest?_eq (i : Interval) (e p : Int) :
    i.nearest? e p =
      let q := quarterUnit e p
      let below := i.value * q.1 / q.2
      match i.holds q below, i.holds q (below + 1) with
      | true, true =>
        if i.value * q.1 - below * q.2 < (below + 1) * q.2 - i.value * q.1 then some below
        else if (below + 1) * q.2 - i.value * q.1 < i.value * q.1 - below * q.2 then
          some (below + 1)
        else some (if below % 2 == 0 then below else below + 1)
      | true, false => some below
      | false, true => some (below + 1)
      | false, false => none := rfl

/-- What is found on a grid reads back. -/
theorem holds_of_nearest? {i : Interval} {e p : Int} {c : Nat} (h : i.nearest? e p = some c) :
    i.holds (quarterUnit e p) c = true := by
  rw [nearest?_eq] at h
  simp only at h
  split at h
  · rename_i below above
    split_ifs at h <;> cases h <;> assumption
  · rename_i below _
    cases h
    exact below
  · rename_i above
    cases h
    exact above
  · cases h

/-- A grid on which one of the two neighbours of the value reads back is no dead end. -/
theorem nearest?_ne_none {i : Interval} {e p : Int}
    (h : i.holds (quarterUnit e p)
        (i.value * (quarterUnit e p).1 / (quarterUnit e p).2) = true ∨
      i.holds (quarterUnit e p)
        (i.value * (quarterUnit e p).1 / (quarterUnit e p).2 + 1) = true) :
    i.nearest? e p ≠ none := by
  intro nothing
  rw [nearest?_eq] at nothing
  simp only at nothing
  split at nothing
  · split_ifs at nothing
  · cases nothing
  · cases nothing
  · rename_i below above
    rw [below, above] at h
    simp at h

/-! ### Enough digits -/

/-- How near to the value a point has to be to lie in the interval on either side. -/
def reach (m : Nat) : ℚ := if m = 2 ^ 52 then 1 else 2

theorem contains_of_near {m : Nat} {e : Int} {y : ℚ} (hm : 0 < m) (low : 4 * m - reach m < y)
    (high : y < 4 * m + reach m) : (intervalOf m e).Contains y := by
  have lowest : ((4 * m - 2 : Nat) : ℚ) = 4 * m - 2 := by
    rw [Nat.cast_sub (by omega)]; push_cast; ring
  have lower : ((4 * m - 1 : Nat) : ℚ) = 4 * m - 1 := by
    rw [Nat.cast_sub (by omega)]; push_cast; ring
  have ends : ((intervalOf m e).low : ℚ) ≤ 4 * m - reach m ∧
      (4 * m + reach m : ℚ) ≤ (intervalOf m e).high := by
    unfold intervalOf reach
    simp only
    split_ifs with narrow least least
    · rw [lower]; push_cast; constructor <;> linarith
    · exact absurd narrow.1 least
    · rw [lowest]; push_cast; constructor <;> linarith
    · rw [lowest]; push_cast; constructor <;> linarith
  unfold Interval.Contains
  split <;> constructor <;> linarith [ends.1, ends.2]

theorem contains_middle {m : Nat} (hm : 0 < m) (e : Int) : (intervalOf m e).Contains (4 * m) := by
  have wide : 0 < reach m := by
    unfold reach
    split <;> norm_num
  apply contains_of_near hm <;> linarith

/-- Where the grid is fine enough, one of the two neighbours of the value reads back: the nearer one
is at most half a gap away. -/
theorem nearest?_of_fine {m : Nat} {e p : Int} (hm : 0 < m)
    (fine : (10 : ℚ) ^ p / 2 ^ (e - 2) < 2 * reach m) : (intervalOf m e).nearest? e p ≠ none := by
  apply nearest?_ne_none
  rw [holds_iff, holds_iff, point_quotient, point_quotient]
  have unit := point_quotient e p 1
  obtain ⟨aPos, bPos⟩ := quarterUnit_pos e p
  have split := Nat.div_add_mod ((intervalOf m e).value * (quarterUnit e p).1) (quarterUnit e p).2
  have small := Nat.mod_lt ((intervalOf m e).value * (quarterUnit e p).1) bPos
  generalize (quarterUnit e p).1 = a at *
  generalize (quarterUnit e p).2 = b at *
  change b * (4 * m * a / b) + 4 * m * a % b = 4 * m * a at split
  change 4 * m * a % b < b at small
  change (intervalOf m e).Contains ((4 * m * a / b : Nat) * b / a) ∨
    (intervalOf m e).Contains ((4 * m * a / b + 1 : Nat) * b / a)
  generalize 4 * m * a / b = below at *
  generalize 4 * m * a % b = r at *
  have pos : (0 : ℚ) < a := by exact_mod_cast aPos
  have whole : (b : ℚ) * below + r = 4 * m * a := by exact_mod_cast split
  have rLow : (0 : ℚ) ≤ r := Nat.cast_nonneg r
  have rHigh : (r : ℚ) < b := by exact_mod_cast small
  have gap : (b : ℚ) < 2 * reach m * a := by
    rw [Nat.cast_one, one_mul, one_mul] at unit
    rwa [unit, div_lt_iff₀ pos] at fine
  have wide : 0 < reach m := by unfold reach; split <;> norm_num
  rcases le_or_gt (2 * (r : ℚ)) b with nearBelow | nearAbove
  · left
    apply contains_of_near hm
    · rw [lt_div_iff₀ pos]
      linarith
    · rw [div_lt_iff₀ pos]
      nlinarith
  · right
    push_cast
    apply contains_of_near hm
    · rw [lt_div_iff₀ pos]
      nlinarith
    · rw [div_lt_iff₀ pos]
      linarith

theorem size_pos {m : Nat} (hm : 0 < m) (e : Int) : 0 < Double.size m e :=
  mul_pos (by exact_mod_cast hm) (Double.two_zpow_pos e)

/-- The binary lengths of a double's quotient are those that the estimate is made for. -/
theorem length_bounds {m : Nat} {e : Int} (h : Double.Canonical m e) (hm : 0 < m) :
    -1200 ≤ ((Double.quotient m e).1.log2 : Int) - (Double.quotient m e).2.log2 ∧
      ((Double.quotient m e).1.log2 : Int) - (Double.quotient m e).2.log2 ≤ 1200 := by
  have dPos := Double.quotient_pos m e
  have nPos : 0 < (Double.quotient m e).1 := by
    have size := size_pos hm e
    rw [← Double.quotient_size] at size
    by_contra zero
    rw [Nat.eq_zero_of_not_pos zero] at size
    simp at size
  obtain ⟨below, above⟩ := Double.log2_bounds nPos dPos
  rw [Double.quotient_size] at below above
  obtain ⟨mBelow, least, greatest, -⟩ := h
  have atLeast : (2 : ℚ) ^ (-1074 : Int) ≤ Double.size m e := by
    calc (2 : ℚ) ^ (-1074 : Int) ≤ 2 ^ e := (zpow_le_zpow_iff_right₀ (by norm_num)).mpr least
      _ = 1 * 2 ^ e := (one_mul _).symm
      _ ≤ m * 2 ^ e := by
          apply mul_le_mul_of_nonneg_right _ (Double.two_zpow_pos e).le
          exact_mod_cast hm
  have atMost : Double.size m e ≤ 2 ^ ((53 : Nat) + e) := by
    calc (m : ℚ) * 2 ^ e ≤ 2 ^ 53 * 2 ^ e := by
          apply mul_le_mul_of_nonneg_right _ (Double.two_zpow_pos e).le
          exact_mod_cast mBelow.le
      _ = 2 ^ ((53 : Nat) + e) := by rw [zpow_add₀ (by norm_num), zpow_natCast]
  have := (zpow_lt_zpow_iff_right₀ (by norm_num : (1 : ℚ) < 2)).mp (atLeast.trans_lt above)
  have := (zpow_lt_zpow_iff_right₀ (by norm_num : (1 : ℚ) < 2)).mp (below.trans_le atMost)
  constructor <;> omega

theorem magnitude_le_size {m : Nat} {e : Int} (h : Double.Canonical m e) (hm : 0 < m) :
    (10 : ℚ) ^ magnitude (Double.quotient m e).1 (Double.quotient m e).2 ≤ Double.size m e := by
  obtain ⟨low, high⟩ := length_bounds h hm
  rw [← Double.quotient_size]
  apply magnitude_le _ (Double.quotient_pos m e) low high
  by_contra zero
  have size := size_pos hm e
  rw [← Double.quotient_size, Nat.eq_zero_of_not_pos zero] at size
  simp at size

/-- Seventeen digits always read back. -/
theorem seventeen_suffice {m : Nat} {e : Int} (h : Double.Canonical m e) (hm : 0 < m) :
    (intervalOf m e).nearest? e
      (magnitude (Double.quotient m e).1 (Double.quotient m e).2 - (16 : Nat)) ≠ none := by
  apply nearest?_of_fine hm
  have top := magnitude_le_size h hm
  generalize magnitude (Double.quotient m e).1 (Double.quotient m e).2 = t at top ⊢
  have two := Double.two_zpow_pos e
  have coarse : (10 : ℚ) ^ (t - (16 : Nat)) / 2 ^ (e - 2) ≤ 4 * m / 10 ^ 16 := by
    rw [zpow_sub₀ (by norm_num), Double.two_zpow_sub, zpow_natCast, div_div_div_eq,
      div_le_div_iff₀ (by positivity) (by positivity)]
    unfold Double.size at top
    norm_num
    linarith
  apply coarse.trans_lt
  have below : (m : ℚ) < 2 ^ 53 := by exact_mod_cast h.1
  unfold reach
  split_ifs with least
  · rw [least]
    norm_num
  · rw [div_lt_iff₀ (by norm_num)]
    linarith

theorem stripped_go_value (fuel c : Nat) (e : Int) :
    (Decimal.stripped.go fuel c e).value = c * 10 ^ e := by
  induction fuel generalizing c e with
  | zero => rfl
  | succ fuel ih =>
    unfold Decimal.stripped.go
    split_ifs with zeros
    · have tenfold : (c : ℚ) = 10 * (c / 10 : Nat) := by
        exact_mod_cast (by omega : c = 10 * (c / 10))
      rw [ih, tenfold, zpow_add_one₀ (by norm_num)]
      ring
    · rfl

theorem stripped_value (d : Decimal) : d.stripped.value = d.value := stripped_go_value _ _ _

/-- The fewest digits lie in the interval of the double. -/
theorem shortest_contains {m : Nat} {e : Int} (h : Double.Canonical m e) (hm : 0 < m) :
    (intervalOf m e).Contains ((shortest m e).value / 2 ^ (e - 2)) := by
  unfold shortest
  simp only
  rw [stripped_value]
  generalize hfound : (List.range 17).findSome? _ = found
  cases found with
  | none =>
    rw [List.findSome?_eq_none_iff] at hfound
    have last := hfound 16 (List.mem_range.mpr (by norm_num))
    rw [Option.map_eq_none_iff] at last
    exact absurd last (seventeen_suffice h hm)
  | some d =>
    obtain ⟨k, -, here⟩ := List.exists_of_findSome?_eq_some hfound
    obtain ⟨c, near, rfl⟩ := Option.map_eq_some_iff.mp here
    exact (holds_iff _ _ _ _).mp (holds_of_nearest? near)

end MetricDesk.Digits

namespace MetricDesk.Double
open Digits (intervalOf ten_zpow_pos)

/-! ### Reading decimals -/

theorem eight_le_ten {p : Int} (h : 0 ≤ p) : (2 : ℚ) ^ (3 * p) ≤ 10 ^ p := by
  obtain ⟨k, rfl⟩ := Int.eq_ofNat_of_zero_le h
  rw [zpow_mul, zpow_natCast, zpow_natCast]
  exact pow_le_pow_left₀ (by norm_num) (by norm_num) k

theorem ten_le_eight {p : Int} (h : p ≤ 0) : (10 : ℚ) ^ p ≤ 2 ^ (3 * p) := by
  have inverse := eight_le_ten (p := -p) (by omega)
  rw [show 3 * -p = -(3 * p) by ring, zpow_neg, zpow_neg] at inverse
  exact (inv_le_inv₀ (two_zpow_pos _) (ten_zpow_pos _)).mp inverse

theorem contains_size {m : Nat} {e : Int} {x : ℚ} (hm : 0 < m)
    (inside : (intervalOf m e).Contains (x / 2 ^ (e - 2))) :
    (m - 1 / 2) * 2 ^ e ≤ x ∧ x ≤ (m + 1 / 2) * 2 ^ e := by
  have quarters : x / 2 ^ (e - 2) = 4 * (x / 2 ^ e) := by
    rw [two_zpow_sub]
    field_simp
    norm_num
  rw [quarters] at inside
  obtain ⟨low, high, -, -⟩ := contains_bounds hm inside
  constructor
  · rw [← le_div_iff₀ (two_zpow_pos e)]
    exact low
  · rw [← div_le_iff₀ (two_zpow_pos e)]
    exact high

/-- A decimal in the interval of a double is read as it. -/
theorem ofDecimal_of_contains {m c : Nat} {e p : Int} (h : Canonical m e) (hm : 0 < m)
    (inside : (intervalOf m e).Contains (c * 10 ^ p / 2 ^ (e - 2))) (s : Bool) :
    ofDecimal s c p = .finite s m e h := by
  obtain ⟨near, high⟩ := contains_size hm inside
  have one : (1 : ℚ) ≤ m := by exact_mod_cast hm
  have low : (1 / 2 : ℚ) * 2 ^ e ≤ c * 10 ^ p :=
    (mul_le_mul_of_nonneg_right (by linarith) (two_zpow_pos e).le).trans near
  obtain ⟨mBelow, least, greatest, -⟩ := id h
  have lower : (2 : ℚ) ^ (-1075 : Int) ≤ c * 10 ^ p := by
    calc (2 : ℚ) ^ (-1075 : Int) = 2 ^ (-1 : Int) * 2 ^ (-1074 : Int) :=
          zpow_add₀ (by norm_num) (-1) (-1074)
      _ = 1 / 2 * 2 ^ (-1074 : Int) := by rw [zpow_neg_one, one_div]
      _ ≤ 1 / 2 * 2 ^ e := by
          apply mul_le_mul_of_nonneg_left _ (by norm_num)
          exact (zpow_le_zpow_iff_right₀ (by norm_num)).mpr least
      _ ≤ c * 10 ^ p := low
  have upper : (c : ℚ) * 10 ^ p < 2 ^ (1024 : Int) := by
    calc (c : ℚ) * 10 ^ p ≤ (m + 1 / 2) * 2 ^ e := high
      _ < 2 ^ 53 * 2 ^ e := by
          apply mul_lt_mul_of_pos_right _ (two_zpow_pos e)
          have : (m : ℚ) + 1 ≤ 2 ^ 53 := by exact_mod_cast mBelow
          linarith
      _ ≤ 2 ^ 53 * 2 ^ (971 : Int) := by
          apply mul_le_mul_of_nonneg_left _ (by norm_num)
          exact (zpow_le_zpow_iff_right₀ (by norm_num)).mpr greatest
      _ = 2 ^ (1024 : Int) := by
          rw [show (1024 : Int) = (53 : Nat) + 971 by norm_num, zpow_add₀ (by norm_num),
            zpow_natCast]
  have positive : 0 < c := by
    by_contra zero
    rw [Nat.eq_zero_of_not_pos zero, Nat.cast_zero, zero_mul] at lower
    exact absurd lower (not_le.mpr (two_zpow_pos _))
  have notHuge : ¬ (0 ≤ p ∧ 1024 < (c.log2 : Int) + 3 * p) := by
    rintro ⟨whole, huge⟩
    have : (2 : ℚ) ^ ((c.log2 : Int) + 3 * p) ≤ c * 10 ^ p := by
      rw [zpow_add₀ (by norm_num), zpow_natCast]
      apply mul_le_mul _ (eight_le_ten whole) (two_zpow_pos _).le (Nat.cast_nonneg c)
      exact_mod_cast Nat.log2_self_le (Nat.ne_of_gt positive)
    have := (zpow_lt_zpow_iff_right₀ (by norm_num : (1 : ℚ) < 2)).mp (this.trans_lt upper)
    omega
  have notTiny : ¬ (p < 0 ∧ (c.log2 : Int) + 1 + (if p < 0 then 3 else 4) * p < -1080) := by
    rintro ⟨part, tiny⟩
    rw [if_pos part] at tiny
    have : (c : ℚ) * 10 ^ p ≤ 2 ^ ((c.log2 : Int) + 1 + 3 * p) := by
      rw [zpow_add₀ (by norm_num)]
      apply mul_le_mul _ (ten_le_eight (by omega)) (ten_zpow_pos _).le (two_zpow_pos _).le
      exact_mod_cast (Nat.lt_log2_self (n := c)).le
    have := (zpow_le_zpow_iff_right₀ (by norm_num : (1 : ℚ) < 2)).mp (lower.trans this)
    omega
  unfold ofDecimal
  rw [if_neg (Nat.ne_of_gt positive)]
  simp only [notHuge, notTiny, if_false, Nat.pow_eq]
  split
  · apply ofRatio_of_contains h hm (by positivity) Nat.one_pos
    rw [Int.ofNat_eq_natCast, zpow_natCast] at inside
    simpa using inside
  · apply ofRatio_of_contains h hm positive (by positivity)
    rw [zpow_negSucc, ← div_eq_mul_inv] at inside
    exact_mod_cast inside

/-- The fewest digits of a double are read as it. -/
theorem ofDecimal_shortest {m : Nat} {e : Int} (h : Canonical m e) (hm : 0 < m) (s : Bool) :
    ofDecimal s (Digits.shortest m e).coefficient (Digits.shortest m e).exponent =
      .finite s m e h :=
  ofDecimal_of_contains h hm (Digits.shortest_contains h hm) s

/-! ### Whole numbers -/

/-- A whole number of up to fifty-three bits is a double. -/
theorem ofInt_natCast {n : Nat} (some : 0 < n) (small : n < 2 ^ 53) :
    ∃ h, ofInt n = .finite false (n * 2 ^ (52 - n.log2)) (-((52 - n.log2 : Nat) : Int)) h := by
  have low : 2 ^ n.log2 ≤ n := Nat.log2_self_le (Nat.ne_of_gt some)
  have high : n < 2 ^ (n.log2 + 1) := Nat.lt_log2_self
  have length : n.log2 ≤ 52 := by
    have := (Nat.log2_lt (Nat.ne_of_gt some)).mpr small
    omega
  have filled : 2 ^ 52 ≤ n * 2 ^ (52 - n.log2) := by
    calc 2 ^ 52 = 2 ^ n.log2 * 2 ^ (52 - n.log2) := by rw [← Nat.pow_add]; congr 1; omega
      _ ≤ n * 2 ^ (52 - n.log2) := Nat.mul_le_mul_right _ low
  have bounded : n * 2 ^ (52 - n.log2) < 2 ^ 53 := by
    calc n * 2 ^ (52 - n.log2) < 2 ^ (n.log2 + 1) * 2 ^ (52 - n.log2) :=
          Nat.mul_lt_mul_of_pos_right high (Nat.two_pow_pos _)
      _ = 2 ^ 53 := by rw [← Nat.pow_add]; congr 1; omega
  have canonical : Canonical (n * 2 ^ (52 - n.log2)) (-((52 - n.log2 : Nat) : Int)) :=
    ⟨bounded, by omega, by omega, Or.inl filled⟩
  have positive : 0 < n * 2 ^ (52 - n.log2) := Nat.mul_pos some (Nat.two_pow_pos _)
  refine ⟨canonical, ?_⟩
  have unsigned : decide ((n : Int) < 0) = false := by simp
  rw [ofInt, unsigned, Int.natAbs_natCast]
  apply ofRatio_of_contains canonical positive some Nat.one_pos
  have middle : (n : ℚ) / (1 : ℕ) / 2 ^ (-((52 - n.log2 : Nat) : Int) - 2) =
      4 * (n * 2 ^ (52 - n.log2) : ℕ) := by
    rw [two_zpow_sub, zpow_neg, zpow_natCast]
    push_cast
    field_simp
  rw [middle]
  exact Digits.contains_middle positive _

end MetricDesk.Double
