import Mathlib.Algebra.Order.Archimedean.Basic
import MetricDesk.Narration.Numeral
import MetricDesk.Proofs.Number.Shortest
import MetricDesk.Proofs.Number.Text

/-! Two decimal places. Main statement: `cents_eq_iff`, a double has the same text to two places as
a finite one iff the same whole number of hundredths is nearest to both. -/
namespace MetricDesk

/-- The whole number nearest to a quantity; of two equally near it is the even one. -/
def Nearest (q : ℚ) (k : ℤ) : Prop := |q - k| ≤ 1 / 2 ∧ (|q - k| = 1 / 2 → Even k)

theorem Nearest.unique {q : ℚ} {k l : ℤ} (hk : Nearest q k) (hl : Nearest q l) : k = l := by
  have both : |(k : ℚ) - l| ≤ |q - l| + |q - k| := by
    calc |(k : ℚ) - l| = |(q - l) - (q - k)| := by ring_nf
      _ ≤ |q - l| + |q - k| := abs_sub _ _
  by_contra other
  have far : (1 : ℚ) ≤ |(k : ℚ) - l| := by
    exact_mod_cast Int.one_le_abs (sub_ne_zero.mpr other)
  have evenK := hk.2 (by linarith [hk.1, hl.1])
  have evenL := hl.2 (by linarith [hk.1, hl.1])
  have near : |(k : ℚ) - l| ≤ 1 := by linarith [hk.1, hl.1]
  have close : |k - l| ≤ 1 := by exact_mod_cast near
  obtain ⟨i, rfl⟩ := evenK
  obtain ⟨j, rfl⟩ := evenL
  rw [abs_le] at close
  omega

theorem Nearest.neg {q : ℚ} {k : ℤ} (h : Nearest q k) : Nearest (-q) (-k) := by
  have same : |-q - (-k : ℤ)| = |q - k| := by
    rw [← abs_neg (q - k)]
    push_cast
    ring_nf
  unfold Nearest
  rw [same]
  exact ⟨h.1, fun half => (h.2 half).neg⟩

theorem nearest_halfEven (a : Nat) {b : Nat} (hb : 0 < b) :
    Nearest ((a : ℚ) / b) (Rounding.halfEven a b : ℕ) := by
  have pos : (0 : ℚ) < b := by exact_mod_cast hb
  obtain ⟨below, above⟩ := Rounding.halfEven_near a b hb
  have belowQ : (2 : ℚ) * a ≤ 2 * (Rounding.halfEven a b * b) + b := by exact_mod_cast below
  have aboveQ : (2 : ℚ) * (Rounding.halfEven a b * b) ≤ 2 * a + b := by exact_mod_cast above
  have measured : (a : ℚ) / b * b = a := div_mul_cancel₀ _ pos.ne'
  constructor
  · rw [abs_le]
    constructor <;> push_cast <;> nlinarith
  · intro half
    -- At half the way the remainder is half the divisor, and the even neighbour was taken.
    have tie : 2 * (a % b) = b := by
      have split : b * (a / b) + a % b = a := Nat.div_add_mod a b
      have small := Nat.mod_lt a hb
      have exact : 2 * a = 2 * (Rounding.halfEven a b * b) + b ∨
          2 * (Rounding.halfEven a b * b) = 2 * a + b := by
        push_cast at half
        rcases abs_eq (by norm_num : (0 : ℚ) ≤ 1 / 2) |>.mp half with up | down
        · left
          exact_mod_cast (by nlinarith : (2 : ℚ) * a = 2 * (Rounding.halfEven a b * b) + b)
        · right
          exact_mod_cast (by nlinarith : (2 : ℚ) * (Rounding.halfEven a b * b) = 2 * a + b)
      rw [Nat.mul_comm] at split
      unfold Rounding.halfEven at exact
      simp only at exact
      rcases Nat.lt_trichotomy (2 * (a % b)) b with less | same | more
      · rw [if_pos less] at exact
        omega
      · exact same
      · rw [if_neg (by omega), if_pos more, Nat.add_mul] at exact
        omega
    unfold Rounding.halfEven
    simp only [tie, lt_irrefl, if_false]
    rw [Int.even_coe_nat, Nat.even_iff]
    omega

namespace Double

/-- The number that a finite double stands for. -/
def rational? : Double → Option ℚ
  | .finite s m e _ => some (if s then -size m e else size m e)
  | _ => none

/-- A finite double is so many hundredths to two decimal places. -/
def InHundredths (x : Double) (k : ℤ) : Prop := ∃ q, x.rational? = some q ∧ Nearest (100 * q) k

theorem placesOf_near (m : Nat) (e : Int) : Nearest (100 * size m e) (placesOf 2 m e : ℕ) := by
  have near := nearest_halfEven ((quotient m e).1 * 10 ^ 2) (quotient_pos m e)
  have quantity : (((quotient m e).1 * 10 ^ 2 : ℕ) : ℚ) / (quotient m e).2 = 100 * size m e := by
    rw [← quotient_size]
    push_cast
    ring
  rwa [quantity] at near

theorem placesOf_eq {m c : Nat} {e : Int} (near : |100 * size m e - c| < 1 / 2) :
    placesOf 2 m e = c := by
  have here : Nearest (100 * size m e) (c : ℤ) :=
    ⟨by exact_mod_cast near.le, fun half => absurd half (by exact_mod_cast near.ne)⟩
  exact_mod_cast (placesOf_near m e).unique here

/-! ### Rounding to two places -/

/-- A significand that may be one past the greatest, at an exponent in range. -/
theorem pack_size {m : Nat} {e : Int} (low : 2 ^ 52 ≤ m) (high : m ≤ 2 ^ 53) (least : -1074 ≤ e)
    (greatest : e ≤ 970) (s : Bool) :
    ∃ n f h, pack s m e = .finite s n f h ∧ size n f = size m e := by
  by_cases carried : m = 2 ^ 53
  · have next : Canonical (2 ^ 52) (e + 1) := ⟨by norm_num, by omega, by omega, Or.inl le_rfl⟩
    refine ⟨2 ^ 52, e + 1, next, by rw [carried, pack_next next], ?_⟩
    rw [carried, size, size, zpow_add₀ (by norm_num)]
    push_cast
    ring
  · have here : Canonical m e := ⟨Nat.lt_of_le_of_ne high carried, least, by omega, Or.inl low⟩
    exact ⟨m, e, here, pack_eq here s, rfl⟩

/-- Where the unit of the significand is no finer than sixty-fourths the nearest hundredths are read
back as the same double. -/
theorem ofRatio_of_coarse {m c : Nat} {e : Int} (h : Canonical m e) (hm : 0 < m) (hc : 0 < c)
    (coarse : -6 ≤ e) (near : |100 * size m e - c| ≤ 1 / 2)
    (whole : m = 2 ^ 52 → (c : ℚ) = 100 * size m e) (s : Bool) :
    ofRatio s c 100 = .finite s m e h := by
  apply ofRatio_of_contains h hm hc (by norm_num)
  have unit := two_zpow_pos (e - 2)
  have wide : (1 / 256 : ℚ) ≤ 2 ^ (e - 2) := by
    calc (1 / 256 : ℚ) = 2 ^ (-8 : ℤ) := by norm_num
      _ ≤ 2 ^ (e - 2) := zpow_le_zpow_right₀ (by norm_num) (by omega)
  have quarters : size m e = 4 * m * 2 ^ (e - 2) := by
    rw [size, two_zpow_sub]
    field_simp
    norm_num
  rw [abs_le, quarters] at near
  by_cases power : m = 2 ^ 52
  · have exact : (c : ℚ) / (100 : ℕ) / 2 ^ (e - 2) = 4 * m := by
      rw [whole power, quarters]
      field_simp
      norm_num
    rw [exact]
    apply Digits.contains_of_near hm <;> rw [Digits.reach, if_pos power] <;> linarith
  · apply Digits.contains_of_near hm <;> rw [Digits.reach, if_neg power]
    · rw [lt_div_iff₀ unit, lt_div_iff₀ (by norm_num)]
      push_cast
      nlinarith
    · rw [div_lt_iff₀ unit, div_lt_iff₀ (by norm_num)]
      push_cast
      nlinarith

/-- In a binade of full significands a quotient is rounded by at most half of the unit. -/
theorem ofRatio_of_binade {n d : Nat} (hn : 0 < n) (hd : 0 < d) {e : Int}
    (low : (2 : ℚ) ^ 52 ≤ n / d / 2 ^ e) (high : (n : ℚ) / d / 2 ^ e < 2 ^ 53) (least : -1074 ≤ e)
    (greatest : e ≤ 970) (s : Bool) :
    ∃ (M : Nat) (m : Nat) (f : Int) (h : Canonical m f), ofRatio s n d = .finite s m f h ∧
      size m f = size M e ∧ |(M : ℚ) - n / d / 2 ^ e| ≤ 1 / 2 := by
  have exponent : exponentFor n d = e := by
    rw [exponentFor_eq hn hd low high, max_eq_left least]
  have near := (nearest_halfEven (scale n d e).1 (scale_pos n hd e)).1
  rw [scale_quotient, abs_sub_comm] at near
  set M := Rounding.halfEven (scale n d e).1 (scale n d e).2 with hM
  have packed : ofRatio s n d = pack s M e := by
    rw [ofRatio, if_neg (by omega)]
    simp only [exponent, hM]
  have bound := near
  rw [abs_le] at bound
  push_cast at bound
  have filled : 2 ^ 52 ≤ M := by
    by_contra less
    have : (M : ℚ) + 1 ≤ 2 ^ 52 := by exact_mod_cast (by omega : M + 1 ≤ 2 ^ 52)
    linarith
  have atMost : M ≤ 2 ^ 53 := by
    by_contra more
    have : (2 : ℚ) ^ 53 + 1 ≤ M := by exact_mod_cast (by omega : 2 ^ 53 + 1 ≤ M)
    linarith
  obtain ⟨m, f, h, finite, same⟩ := pack_size filled atMost least greatest s
  exact ⟨M, m, f, h, packed.trans finite, same, by exact_mod_cast near⟩

theorem exists_binade {q : ℚ} (pos : 0 < q) :
    ∃ e : Int, (2 : ℚ) ^ 52 ≤ q / 2 ^ e ∧ q / 2 ^ e < 2 ^ 53 := by
  obtain ⟨k, low, high⟩ := exists_mem_Ico_zpow pos (by norm_num : (1 : ℚ) < 2)
  have unit := two_zpow_pos (k - 52)
  refine ⟨k - 52, ?_, ?_⟩
  · rw [le_div_iff₀ unit, ← zpow_natCast, ← zpow_add₀ (by norm_num)]
    exact (le_of_eq (by congr 1; ring)).trans low
  · rw [div_lt_iff₀ unit, ← zpow_natCast, ← zpow_add₀ (by norm_num)]
    exact high.trans_eq (by congr 1; ring)

/-- Below `2 ^ 46` a whole number of hundredths keeps its hundredths as a double. -/
theorem ofRatio_of_fine {c : Nat} (hc : 0 < c) (small : c ≤ 100 * 2 ^ 46) (s : Bool) :
    ∃ n f h, ofRatio s c 100 = .finite s n f h ∧ |100 * size n f - c| < 1 / 2 := by
  have cPos : (1 : ℚ) ≤ c := by exact_mod_cast hc
  have cSmall : (c : ℚ) ≤ 100 * 2 ^ 46 := by exact_mod_cast small
  obtain ⟨e, low, high⟩ := exists_binade (q := (c : ℚ) / (100 : ℕ)) (by positivity)
  have unit := two_zpow_pos e
  have measured : (c : ℚ) / (100 : ℕ) / 2 ^ e * (100 * 2 ^ e) = c := by
    push_cast
    field_simp
  have atMost : e ≤ -6 := by
    have : (2 : ℚ) ^ e ≤ 2 ^ (-6 : ℤ) := by
      norm_num
      nlinarith
    exact (zpow_le_zpow_iff_right₀ (by norm_num)).mp this
  have atLeast : -60 < e := by
    have : (2 : ℚ) ^ (-60 : ℤ) < 2 ^ e := by
      norm_num
      nlinarith
    exact (zpow_lt_zpow_iff_right₀ (by norm_num)).mp this
  obtain ⟨M, n, f, h, finite, same, bound⟩ :=
    ofRatio_of_binade hc (by norm_num) low high (by omega) (by omega) s
  refine ⟨n, f, h, finite, ?_⟩
  generalize (c : ℚ) / (100 : ℕ) / 2 ^ e = y at low high bound measured
  have apart : 100 * ((M : ℚ) * 2 ^ e) - y * (100 * 2 ^ e) = 100 * 2 ^ e * (M - y) := by ring
  rw [same, size, ← measured, apart, abs_mul, abs_of_pos (by positivity)]
  by_cases top : e = -6
  · -- Only `2 ^ 46` itself is here, which is a double.
    have sixtyFourth : (2 : ℚ) ^ e = 1 / 64 := by
      rw [top]
      norm_num
    rw [sixtyFourth] at measured ⊢
    have exact : y = 2 ^ 52 := by linarith
    have whole : M = 2 ^ 52 := by
      rw [abs_le] at bound
      have below : (M : ℚ) < 2 ^ 52 + 1 := by linarith
      have above : (2 : ℚ) ^ 52 < M + 1 := by linarith
      have belowNat : M < 2 ^ 52 + 1 := by exact_mod_cast below
      have aboveNat : 2 ^ 52 < M + 1 := by exact_mod_cast above
      omega
    rw [exact, whole]
    norm_num
  · have fine : (2 : ℚ) ^ e ≤ 1 / 128 := by
      calc (2 : ℚ) ^ e ≤ 2 ^ (-7 : ℤ) := zpow_le_zpow_right₀ (by norm_num) (by omega)
        _ = 1 / 128 := by norm_num
    nlinarith [abs_nonneg ((M : ℚ) - y)]

/-- Rounding to two places changes no hundredths. -/
theorem placesOf_round {m : Nat} {e : Int} (h : Canonical m e) (s : Bool) :
    ∃ n f h', (Double.finite s m e h).round 2 = .finite s n f h' ∧
      placesOf 2 n f = placesOf 2 m e := by
  change ∃ n f h', ofRatio s (placesOf 2 m e) 100 = .finite s n f h' ∧ _
  have near := (placesOf_near m e).1
  generalize hc : placesOf 2 m e = c at near
  rcases Nat.eq_zero_or_pos c with rfl | some
  · exact ⟨0, -1074, canonical_zero, by rw [ofRatio, if_pos rfl]; rfl, by decide +kernel⟩
  have hm : 0 < m := by
    by_contra zero
    obtain rfl : m = 0 := by omega
    have : placesOf 2 0 e = 0 := placesOf_eq (by simp [size])
    omega
  by_cases coarse : -6 ≤ e
  · refine ⟨m, e, h, ofRatio_of_coarse h hm some coarse (by exact_mod_cast near) ?_ s, hc⟩
    rintro rfl
    obtain ⟨k, hk⟩ := Int.eq_ofNat_of_zero_le (by omega : 0 ≤ e + 52)
    have whole : 100 * size (2 ^ 52) e = (100 * 2 ^ k : ℕ) := by
      rw [size, show e = (k : ℤ) - 52 by omega, two_zpow_sub, zpow_natCast]
      push_cast
      field_simp
    rw [whole, ← hc]
    congr 1
    apply placesOf_eq
    rw [whole]
    norm_num
  · have below : size m e < 2 ^ 46 := by
      calc size m e < 2 ^ 53 * 2 ^ e := by
            exact mul_lt_mul_of_pos_right (by exact_mod_cast h.1) (two_zpow_pos e)
        _ ≤ 2 ^ 53 * 2 ^ (-7 : ℤ) := by
            apply mul_le_mul_of_nonneg_left _ (by norm_num)
            exact zpow_le_zpow_right₀ (by norm_num) (by omega)
        _ = 2 ^ 46 := by norm_num
    have small : c ≤ 100 * 2 ^ 46 := by
      rw [abs_le] at near
      have : (c : ℚ) < 100 * 2 ^ 46 + 1 := by
        push_cast at near
        linarith
      exact Nat.le_of_lt_succ (by exact_mod_cast this)
    obtain ⟨n, f, h', rounded, kept⟩ := ofRatio_of_fine some small s
    exact ⟨n, f, h', rounded, placesOf_eq kept⟩

/-! ### The text of hundredths -/

/-- Hundredths with a sign. -/
def hundredths (s : Bool) (c : Nat) : ℤ := if s then -c else c

/-- The digits of so many hundredths, two of them behind a point. -/
def pointed (c : Nat) : List Char :=
  (Digits.padded 3 c).take ((Digits.padded 3 c).length - 2)
    ++ '.' :: (Digits.padded 3 c).drop ((Digits.padded 3 c).length - 2)

theorem pointed_injective {c d : Nat} (same : pointed c = pointed d) : c = d := by
  have digits (n : Nat) : (pointed n).filter (· != '.') = Digits.padded 3 n := by
    have kept (ds : List Char) (run : ∀ c ∈ ds, c.isDigit = true) :
        ds.filter (· != '.') = ds := by
      rw [List.filter_eq_self]
      intro c mem
      rw [bne_iff_ne]
      rintro rfl
      exact absurd (run _ mem) (by decide)
    rw [pointed, List.filter_append, List.filter_cons_of_neg (by simp),
      kept _ fun c mem => Reading.isDigit_padded (List.mem_of_mem_take mem),
      kept _ fun c mem => Reading.isDigit_padded (List.mem_of_mem_drop mem),
      List.take_append_drop]
  rw [← Reading.naturalOf_padded 3 c, ← digits, same, digits, Reading.naturalOf_padded]

theorem pointed_ne_minus (c : Nat) (cs : List Char) : pointed c ≠ '-' :: cs := by
  intro same
  have first : '-' ∈ pointed c := by rw [same]; exact List.mem_cons_self
  rcases List.mem_append.mp first with mem | mem
  · exact absurd (Reading.isDigit_padded (List.mem_of_mem_take mem)) (by decide)
  · rcases List.mem_cons.mp mem with point | mem
    · exact absurd point (by decide)
    · exact absurd (Reading.isDigit_padded (List.mem_of_mem_drop mem)) (by decide)

def textOfHundredths (k : ℤ) : List Char :=
  if k < 0 then '-' :: pointed k.natAbs else pointed k.natAbs

theorem textOfHundredths_injective {k l : ℤ} (same : textOfHundredths k = textOfHundredths l) :
    k = l := by
  unfold textOfHundredths at same
  split_ifs at same with hk hl hl
  · have := pointed_injective (List.cons.inj same).2
    omega
  · exact absurd same.symm (pointed_ne_minus _ _)
  · exact absurd same (pointed_ne_minus _ _)
  · have := pointed_injective same
    omega

theorem cents_finite {m : Nat} {e : Int} (h : Canonical m e) (s : Bool) :
    (Double.finite s m e h).cents =
      String.ofList (textOfHundredths (hundredths s (placesOf 2 m e))) := by
  obtain ⟨n, f, h', rounded, kept⟩ := placesOf_round h s
  have fixed : (Double.finite s n f h').fixed 2 =
      Layout.signed s (pointed (placesOf 2 m e)) := by
    rw [← kept]
    rfl
  unfold cents
  rw [rounded, fixed]
  generalize placesOf 2 m e = c
  have zeros : pointed 0 = ['0', '.', '0', '0'] := by decide
  have zero : Layout.signed s (pointed c) = "-0.00" ↔ s = true ∧ c = 0 := by
    constructor
    · intro same
      have text := String.ofList_injective same
      cases s with
      | false => exact absurd text (pointed_ne_minus _ _)
      | true => exact ⟨rfl, pointed_injective ((List.cons.inj text).2.trans zeros.symm)⟩
    · rintro ⟨rfl, rfl⟩
      rw [zeros]
      rfl
  simp only [zero]
  cases s with
  | false =>
    have positive : ¬ hundredths false c < 0 := Int.not_lt.mpr (Int.natCast_nonneg c)
    rw [if_neg (by simp), textOfHundredths, if_neg positive]
    rfl
  | true =>
    rcases Nat.eq_zero_or_pos c with rfl | some
    · simp [hundredths, textOfHundredths, zeros]
    · have negative : hundredths true c < 0 := by simp [hundredths, some]
      have size : (hundredths true c).natAbs = c := by simp [hundredths]
      rw [if_neg (by omega), textOfHundredths, if_pos negative, size]
      rfl

theorem inHundredths_iff {m : Nat} {e : Int} (h : Canonical m e) (s : Bool) (k : ℤ) :
    InHundredths (.finite s m e h) k ↔ k = hundredths s (placesOf 2 m e) := by
  have near :
      Nearest (100 * if s then -size m e else size m e) (hundredths s (placesOf 2 m e)) := by
    cases s with
    | false => exact placesOf_near m e
    | true =>
      have mirrored := (placesOf_near m e).neg
      rw [← mul_neg] at mirrored
      exact mirrored
  constructor
  · rintro ⟨q, value, nearK⟩
    obtain rfl := Option.some.inj value
    exact nearK.unique near
  · rintro rfl
    exact ⟨_, rfl, near⟩

/-- Two doubles are finite and agree to two decimal places. -/
def AgreeInHundredths (x y : Double) : Prop := ∃ k, InHundredths x k ∧ InHundredths y k

theorem point_mem_textOfHundredths (k : ℤ) : '.' ∈ textOfHundredths k := by
  have point : '.' ∈ pointed k.natAbs := List.mem_append_right _ List.mem_cons_self
  unfold textOfHundredths
  split
  · exact List.mem_cons_of_mem _ point
  · exact point

/-- What is not finite has the text of nothing finite. -/
theorem cents_ne {x y : Double} (hx : x.isFinite = false) (hy : y.isFinite = true) :
    x.cents ≠ y.cents := by
  intro same
  have pointless : '.' ∉ x.cents.toList := by
    cases x with
    | nan => decide
    | infinite s => cases s <;> decide
    | finite => cases hx
  cases y with
  | nan => cases hy
  | infinite => cases hy
  | finite s m e h =>
    rw [same, cents_finite, String.toList_ofList] at pointless
    exact pointless (point_mem_textOfHundredths _)

theorem cents_eq_iff {x y : Double} (hy : y.isFinite = true) :
    x.cents = y.cents ↔ AgreeInHundredths x y := by
  cases y with
  | nan => cases hy
  | infinite => cases hy
  | finite t n f h' =>
    cases x with
    | nan =>
      exact iff_of_false (cents_ne rfl hy) fun ⟨_, ⟨_, value, _⟩, _⟩ => nomatch value
    | infinite =>
      exact iff_of_false (cents_ne rfl hy) fun ⟨_, ⟨_, value, _⟩, _⟩ => nomatch value
    | finite s m e h =>
      rw [cents_finite, cents_finite, String.ofList_inj]
      unfold AgreeInHundredths
      simp only [inHundredths_iff]
      constructor
      · intro same
        exact ⟨_, rfl, textOfHundredths_injective same⟩
      · rintro ⟨k, here, there⟩
        rw [← here, ← there]

end Double
end MetricDesk
