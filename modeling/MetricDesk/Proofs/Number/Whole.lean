import MetricDesk.Number.Basic
import MetricDesk.Proofs.Number.Hundredths

/-! Whole numbers as doubles. Main statements: `finite_eq_ofInt`, a double whose value is whole is
the double of that number; and `isFinite_ofInt_iff`, the whole numbers that have a double are those
below `beyond`. The double of a whole number has no fraction: `isWhole_ofInt`. -/
namespace MetricDesk

namespace Rounding

/-- The nearest whole number is below an even one as long as the quotient is by more than half. -/
theorem halfEven_lt_iff {a b k : Nat} (hb : 0 < b) (even : k % 2 = 0) :
    halfEven a b < k ↔ 2 * a + b < 2 * (b * k) := by
  have split : b * (a / b) + a % b = a := Nat.div_add_mod a b
  have small := Nat.mod_lt a hb
  unfold halfEven
  rcases Nat.lt_trichotomy (a / b + 1) k with less | same | more
  · have := Nat.mul_le_mul_left b (by omega : a / b + 2 ≤ k)
    rw [Nat.mul_add] at this
    simp only
    split_ifs <;> omega
  · have odd : a / b % 2 = 1 := by omega
    rw [← same, Nat.mul_add, Nat.mul_one]
    simp only
    split_ifs <;> omega
  · have := Nat.mul_le_mul_left b (by omega : k ≤ a / b)
    simp only
    split_ifs <;> omega

theorem div_le_halfEven (a b : Nat) : a / b ≤ halfEven a b := by
  unfold halfEven
  simp only
  split_ifs <;> omega

end Rounding

namespace Double

/-- The least whole number that no double is near: halfway between the greatest double and the next
power of two. -/
def beyond : Nat := 2 ^ 1024 - 2 ^ 970

/-- A double with a whole value is the double of that number. -/
theorem finite_eq_ofInt {m n : Nat} {e : Int} (h : Canonical m e) (some : 0 < n)
    (value : (quotient m e).1 = n * (quotient m e).2) : .finite false m e h = ofInt n := by
  have size : size m e = n := by
    rw [← quotient_size, value, Nat.cast_mul, mul_div_assoc, div_self, mul_one]
    exact_mod_cast (quotient_pos m e).ne'
  have positive : 0 < m := by
    by_contra none
    rw [Double.size, Nat.eq_zero_of_not_pos none, Nat.cast_zero, zero_mul] at size
    exact some.ne (by exact_mod_cast size)
  have unsigned : decide ((n : Int) < 0) = false := by simp
  rw [ofInt, unsigned, Int.natAbs_natCast]
  symm
  apply ofRatio_of_contains h positive some Nat.one_pos
  have middle : (n : ℚ) / (1 : ℕ) / 2 ^ (e - 2) = 4 * m := by
    rw [← size, Double.size, two_zpow_sub]
    field_simp
    norm_num
  rw [middle]
  exact Digits.contains_middle positive _

/-- A double without a fraction is the double of its whole part. -/
theorem eq_ofInt_of_toInt? {x : Double} {n : Nat} (whole : x.isWhole = true)
    (found : x.toInt? = some (n : Int)) (some : 0 < n) : x = ofInt n := by
  cases x with
  | nan => cases found
  | infinite => cases found
  | finite s m e h =>
    simp only [isWhole, beq_iff_eq] at whole
    simp only [toInt?, Rounding.truncated, Option.some.injEq] at found
    cases s with
    | true =>
      rw [if_pos rfl] at found
      generalize (quotient m e).1 / (quotient m e).2 = k at found
      omega
    | false =>
      apply finite_eq_ofInt h some
      simp only [Bool.false_eq_true, if_false, Nat.cast_inj] at found
      rw [← found, Nat.div_mul_cancel (Nat.dvd_of_mod_eq_zero whole)]

/-- Up to fifty-three bits the double of a whole number has its value. -/
theorem quotient_ofInt {n : Nat} (some : 0 < n) (small : n < 2 ^ 53) :
    ∃ m e h, ofInt n = .finite false m e h ∧ (quotient m e).1 = n * (quotient m e).2 := by
  obtain ⟨h, same⟩ := ofInt_natCast some small
  refine ⟨_, _, h, same, ?_⟩
  generalize 52 - n.log2 = k
  cases k with
  | zero => simp [quotient]
  | succ k => rfl

/-! ### The range of doubles -/

theorem pack_infinite {m : Nat} {e : Int} (high : 971 < e) (s : Bool) :
    pack s m e = .infinite s := by
  have notHere : ¬ Canonical m e := fun h => by have := h.2.2.1; omega
  have notNext : ¬ (m = Nat.pow 2 53 ∧ Canonical (Nat.pow 2 52) (e + 1)) := fun h => by
    have := h.2.2.2.1
    omega
  rw [pack, dif_neg notHere, dif_neg notNext]

/-- In the greatest binade the significand decides. -/
theorem isFinite_pack_greatest {m : Nat} (low : 2 ^ 52 ≤ m) (s : Bool) :
    (pack s m 971).isFinite = true ↔ m < 2 ^ 53 := by
  by_cases small : m < 2 ^ 53
  · have here : Canonical m 971 := ⟨small, by omega, by omega, Or.inl low⟩
    rw [pack_eq here]
    exact iff_of_true rfl small
  · have notHere : ¬ Canonical m 971 := fun h => small h.1
    have notNext : ¬ (m = Nat.pow 2 53 ∧ Canonical (Nat.pow 2 52) (971 + 1)) := by
      rintro ⟨-, h⟩
      exact absurd h.2.2.1 (by omega)
    rw [pack, dif_neg notHere, dif_neg notNext]
    exact iff_of_false Bool.false_ne_true small

theorem scale_ofNat (n d e : Nat) : scale n d (Int.ofNat e) = (n, d * 2 ^ e) := rfl

/-- In a binade of full significands the significand is the nearest to the quotient. -/
theorem ofRatio_of_exponentFor {n d : Nat} (hn : 0 < n) (hd : 0 < d) {e : Int} (least : -1074 ≤ e)
    (low : (2 : ℚ) ^ 52 ≤ n / d / 2 ^ e) (high : (n : ℚ) / d / 2 ^ e < 2 ^ 53) (s : Bool) :
    ofRatio s n d = pack s (Rounding.halfEven (scale n d e).1 (scale n d e).2) e ∧
      2 ^ 52 ≤ Rounding.halfEven (scale n d e).1 (scale n d e).2 := by
  have exponent : exponentFor n d = e := by
    rw [exponentFor_eq hn hd low high, max_eq_left least]
  have filled : 2 ^ 52 * (scale n d e).2 ≤ (scale n d e).1 := by
    rw [← Nat.not_lt, scale_lt_iff hd, not_lt]
    exact_mod_cast low
  constructor
  · rw [ofRatio, if_neg hn.ne']
    simp only [exponent]
  · have whole := (Nat.le_div_iff_mul_le (scale_pos n hd e)).mpr filled
    exact whole.trans (Rounding.div_le_halfEven _ _)

/-- In units of `2 ^ (e + 1)` a whole number is rounded to fifty-three bits as long as it is more
than half of the unit below the next power of two. -/
theorem halfEven_scale_lt_iff (n e : Nat) :
    Rounding.halfEven (scale n 1 (Int.ofNat (e + 1))).1 (scale n 1 (Int.ofNat (e + 1))).2 < 2 ^ 53 ↔
      n < 2 ^ e * 2 ^ 54 - 2 ^ e := by
  rw [Rounding.halfEven_lt_iff (scale_pos n Nat.one_pos _) (by norm_num), scale_ofNat, Nat.pow_succ]
  have some : 0 < 2 ^ e := Nat.two_pow_pos e
  generalize 2 ^ e = unit at some
  simp only
  omega

/-- The binade of a whole number, and the number between the powers of two at its ends. -/
theorem exists_binade_nat {n : Nat} (some : 0 < n) : ∃ e : Int, -1074 ≤ e ∧
    ((2 : ℚ) ^ 52 ≤ n / (1 : ℕ) / 2 ^ e ∧ (n : ℚ) / (1 : ℕ) / 2 ^ e < 2 ^ 53) ∧
    (2 : ℚ) ^ (e + 52) ≤ n ∧ (n : ℚ) < 2 ^ (e + 53) := by
  obtain ⟨e, low, high⟩ := exists_binade (q := (n : ℚ) / (1 : ℕ)) (by simpa using some)
  have positive := two_zpow_pos e
  have atLeast : (2 : ℚ) ^ (e + 52) ≤ n := by
    rw [add_comm, zpow_add₀ two_ne_zero]
    rwa [Nat.cast_one, div_one, le_div_iff₀ positive] at low
  have below : (n : ℚ) < 2 ^ (e + 53) := by
    rw [add_comm, zpow_add₀ two_ne_zero]
    rwa [Nat.cast_one, div_one, div_lt_iff₀ positive] at high
  have one : (2 : ℚ) ^ (0 : Int) ≤ n := by exact_mod_cast some
  have := (zpow_lt_zpow_iff_right₀ (by norm_num : (1 : ℚ) < 2)).mp (one.trans_lt below)
  exact ⟨e, by omega, ⟨low, high⟩, atLeast, below⟩

/-- The whole numbers that have a double. -/
theorem isFinite_ofInt_iff (n : Nat) : (ofInt n).isFinite = true ↔ n < beyond := by
  have unsigned : decide ((n : Int) < 0) = false := by simp
  rw [ofInt, unsigned, Int.natAbs_natCast]
  rcases Nat.eq_zero_or_pos n with rfl | some
  · exact iff_of_true rfl (by decide +kernel)
  obtain ⟨e, least, ⟨low, high⟩, atLeast, below⟩ := exists_binade_nat some
  obtain ⟨packed, filled⟩ := ofRatio_of_exponentFor some Nat.one_pos least low high false
  rcases lt_trichotomy e 971 with less | rfl | more
  · obtain ⟨M, m, f, h, finite, -⟩ :=
      ofRatio_of_binade some Nat.one_pos low high least (by omega) false
    rw [finite]
    refine iff_of_true rfl ?_
    have bound : (n : ℚ) < 2 ^ (1023 : Int) :=
      below.trans_le (zpow_le_zpow_right₀ (by norm_num) (by omega))
    rw [zpow_ofNat] at bound
    have inside : 2 ^ 1023 ≤ beyond := by decide +kernel
    exact (by exact_mod_cast bound : n < 2 ^ 1023).trans_le inside
  · have limit : beyond = 2 ^ 970 * 2 ^ 54 - 2 ^ 970 := by rw [← Nat.pow_add, beyond]
    rw [packed, isFinite_pack_greatest filled, limit]
    exact halfEven_scale_lt_iff n 970
  · rw [packed, pack_infinite more]
    refine iff_of_false Bool.false_ne_true (Nat.not_lt.mpr ?_)
    have bound : (2 : ℚ) ^ (1024 : Int) ≤ n :=
      (zpow_le_zpow_right₀ (by norm_num) (by omega)).trans atLeast
    rw [zpow_ofNat] at bound
    have outside : beyond ≤ 2 ^ 1024 := Nat.sub_le _ _
    exact outside.trans (by exact_mod_cast bound)

theorem isWhole_pack {m : Nat} {e : Int} (unscaled : 0 ≤ e) {s : Bool}
    (finite : (pack s m e).isFinite = true) : (pack s m e).isWhole = true := by
  have whole (m : Nat) {e : Int} (unscaled : 0 ≤ e) (h : Canonical m e) :
      (Double.finite s m e h).isWhole = true := by
    obtain ⟨k, rfl⟩ := Int.eq_ofNat_of_zero_le unscaled
    rw [isWhole, beq_iff_eq]
    exact Nat.mod_one _
  unfold pack at finite ⊢
  split
  · exact whole _ unscaled _
  · split
    · exact whole _ (by omega) _
    · next none last =>
      rw [dif_neg none, dif_neg last] at finite
      cases finite

/-- Neither in the binades of fractions, where a whole number has its own value, nor above them. -/
theorem isWhole_ofInt {n : Nat} (some : 0 < n) (bounded : n < beyond) :
    (ofInt n).isWhole = true := by
  by_cases small : n < 2 ^ 53
  · obtain ⟨m, e, h, same, value⟩ := quotient_ofInt some small
    rw [same, isWhole, beq_iff_eq]
    simp only [value]
    exact Nat.mul_mod_left _ _
  · have finite := (isFinite_ofInt_iff n).mpr bounded
    obtain ⟨e, least, ⟨low, high⟩, -, below⟩ := exists_binade_nat some
    obtain ⟨packed, -⟩ := ofRatio_of_exponentFor some Nat.one_pos least low high false
    have unsigned : decide ((n : Int) < 0) = false := by simp
    rw [ofInt, unsigned, Int.natAbs_natCast, packed] at finite ⊢
    have large : (2 : ℚ) ^ (53 : Int) ≤ n := by exact_mod_cast Nat.not_lt.mp small
    have := (zpow_lt_zpow_iff_right₀ (by norm_num : (1 : ℚ) < 2)).mp (large.trans_lt below)
    exact isWhole_pack (by omega) finite

theorem isFinite_ofRatio (s : Bool) (n d : Nat) :
    (ofRatio s n d).isFinite = (ofRatio false n d).isFinite := by
  unfold ofRatio pack
  split
  · rfl
  · dsimp only
    split
    · rfl
    · split <;> rfl

/-- The whole numbers of either sign that have a double. -/
theorem isFinite_ofInt_natAbs (k : Int) : (ofInt k).isFinite = true ↔ k.natAbs < beyond := by
  have unsigned : decide ((k.natAbs : Int) < 0) = false := by simp
  rw [← isFinite_ofInt_iff, ofInt, isFinite_ofRatio, ofInt, unsigned, Int.natAbs_natCast]

theorem isZero_pack {m : Nat} (some : m ≠ 0) (s : Bool) (e : Int) :
    (pack s m e).isZero = false := by
  unfold pack
  split
  · simp [isZero, some]
  · split
    · rfl
    · rfl

/-- No whole number but zero comes out as zero. -/
theorem isZero_ofInt {n : Nat} (some : 0 < n) : (ofInt n).isZero = false := by
  obtain ⟨e, least, ⟨low, high⟩, -⟩ := exists_binade_nat some
  obtain ⟨packed, filled⟩ := ofRatio_of_exponentFor some Nat.one_pos least low high false
  have unsigned : decide ((n : Int) < 0) = false := by simp
  rw [ofInt, unsigned, Int.natAbs_natCast, packed]
  apply isZero_pack
  have : 0 < 2 ^ 52 := Nat.two_pow_pos 52
  omega

end Double
end MetricDesk
