import MetricDesk.Proofs.Number.Hundredths
import MetricDesk.Proofs.Number.Order

/-! Rounding keeps order. Main statements: `place_rounded_mono`, of two quantities the greater is
not rounded below the other; `place_rounded_value`, a double is rounded to itself; and `place_sub`,
a difference is the exact difference, rounded. -/
namespace MetricDesk

theorem Nearest.mono {p q : ℚ} {k l : ℤ} (hk : Nearest p k) (hl : Nearest q l) (le : p ≤ q) :
    k ≤ l := by
  by_contra less
  have next : (l : ℚ) + 1 ≤ k := by exact_mod_cast not_le.mp less
  have low := (abs_le.mp hk.1).1
  have high := (abs_le.mp hl.1).2
  -- Both lie halfway between the two, which are neighbours and even.
  have same : (k : ℚ) = l + 1 := by linarith
  have evenK : Even k := hk.2 (by rw [abs_of_nonpos] <;> linarith)
  have evenL : Even l := hl.2 (by rw [abs_of_nonneg] <;> linarith)
  have neighbours : k = l + 1 := by exact_mod_cast same
  rw [neighbours] at evenK
  exact (Int.even_add_one.mp evenK) evenL

namespace Double

/-- A size as a place: beyond the greatest doubles there is only infinity. -/
def reached (q : ℚ) : WithBot (WithTop ℚ) := if q < 2 ^ 1024 then ((q : WithTop ℚ) : _) else ⊤

theorem reached_mono {p q : ℚ} (le : p ≤ q) : reached p ≤ reached q := by
  unfold reached
  split
  · split
    · exact_mod_cast le
    · exact le_top
  · next far => rw [if_neg (not_lt.mpr ((not_lt.mp far).trans le))]

theorem size_le_size {m n : Nat} {e : Int} (le : m ≤ n) : size m e ≤ size n e :=
  mul_le_mul_of_nonneg_right (by exact_mod_cast le) (two_zpow_pos e).le

theorem size_pow (k : Nat) (e : Int) : size (2 ^ k) e = 2 ^ (k + e) := by
  rw [size, zpow_add₀ (by norm_num), zpow_natCast]
  push_cast
  rfl

theorem size_lt_limit {m : Nat} {e : Int} (h : Canonical m e) : size m e < 2 ^ 1024 := by
  obtain ⟨below, -, greatest, -⟩ := h
  calc size m e < size (2 ^ 53) e :=
        mul_lt_mul_of_pos_right (by exact_mod_cast below) (two_zpow_pos e)
    _ = 2 ^ ((53 : ℕ) + e) := size_pow 53 e
    _ ≤ 2 ^ (1024 : ℤ) := zpow_le_zpow_right₀ (by norm_num) (by push_cast; omega)
    _ = 2 ^ 1024 := zpow_natCast 2 1024

theorem place_finite_of_size {m : Nat} {e : Int} (h : Canonical m e) :
    (Double.finite false m e h).place = reached (size m e) := by
  rw [reached, if_pos (size_lt_limit h)]
  rfl

/-- A significand that may be one past the greatest, at any exponent that it has the bits for. -/
theorem place_pack {m : Nat} {e : Int} (high : m ≤ 2 ^ 53) (least : -1074 ≤ e)
    (full : 2 ^ 52 ≤ m ∨ e = -1074) : (pack false m e).place = reached (size m e) := by
  by_cases here : Canonical m e
  · rw [pack_eq here, place_finite_of_size]
  by_cases carried : m = 2 ^ 53 ∧ Canonical (2 ^ 52) (e + 1)
  · obtain ⟨rfl, next⟩ := carried
    rw [pack_next next, place_finite_of_size, size_pow, size_pow]
    congr 2
    push_cast
    omega
  · have infinite : pack false m e = .infinite false := by
      rw [pack, dif_neg here]
      exact dif_neg carried
    have far : (2 : ℚ) ^ 1024 ≤ size m e := by
      by_cases last : m = 2 ^ 53
      · have beyond : 971 ≤ e := by
          by_contra small
          exact carried ⟨last, by norm_num, by omega, by omega, Or.inl le_rfl⟩
        calc (2 : ℚ) ^ 1024 = 2 ^ (1024 : ℤ) := (zpow_natCast 2 1024).symm
          _ ≤ 2 ^ ((53 : ℕ) + e) := zpow_le_zpow_right₀ (by norm_num) (by push_cast; omega)
          _ = size m e := by rw [last, size_pow]
      · have beyond : 972 ≤ e := by
          by_contra small
          exact here ⟨Nat.lt_of_le_of_ne high last, least, by omega, full⟩
        calc (2 : ℚ) ^ 1024 = 2 ^ (1024 : ℤ) := (zpow_natCast 2 1024).symm
          _ ≤ 2 ^ ((52 : ℕ) + e) := zpow_le_zpow_right₀ (by norm_num) (by push_cast; omega)
          _ = size (2 ^ 52) e := (size_pow 52 e).symm
          _ ≤ size m e := size_le_size (full.resolve_right (by omega))
    rw [infinite, reached, if_neg (not_lt.mpr far)]
    rfl

/-- A positive quotient is rounded to a significand at the exponent of its binade. -/
theorem exists_place_ofRatio {n d : Nat} (hn : 0 < n) (hd : 0 < d) :
    ∃ (M : Nat) (e : Int), (ofRatio false n d).place = reached (size M e) ∧
      Nearest (n / d / 2 ^ e) M ∧ -1074 ≤ e ∧ M ≤ 2 ^ 53 ∧ (n : ℚ) / d / 2 ^ e < 2 ^ 53 ∧
      (e = -1074 ∨ 2 ^ 52 ≤ M ∧ (2 : ℚ) ^ 52 ≤ n / d / 2 ^ e) := by
  have positive : (0 : ℚ) < n / d := by positivity
  obtain ⟨b, low, high⟩ := exists_binade positive
  have exponent := exponentFor_eq hn hd low high
  set e := max b (-1074) with he
  have near := nearest_halfEven (scale n d e).1 (scale_pos n hd e)
  rw [scale_quotient] at near
  set M := Rounding.halfEven (scale n d e).1 (scale n d e).2 with hM
  have packed : ofRatio false n d = pack false M e := by
    rw [ofRatio, if_neg (by omega)]
    simp only [exponent, hM]
  have below : (n : ℚ) / d / 2 ^ e < 2 ^ 53 := by
    rw [div_lt_iff₀ (two_zpow_pos _)] at high ⊢
    refine high.trans_le (mul_le_mul_of_nonneg_left ?_ (by positivity))
    exact zpow_le_zpow_right₀ (by norm_num) (le_max_left b _)
  have whole (k : Nat) (hk : Even k) : Nearest (k : ℚ) (k : ℤ) :=
    ⟨by simp, fun _ => by exact_mod_cast hk⟩
  have atMost : M ≤ 2 ^ 53 := by
    exact_mod_cast near.mono (whole (2 ^ 53) (by decide)) (by exact_mod_cast below.le)
  have full : e = -1074 ∨ 2 ^ 52 ≤ M ∧ (2 : ℚ) ^ 52 ≤ n / d / 2 ^ e := by
    rcases le_total b (-1074) with small | large
    · exact Or.inl (max_eq_right small)
    · rw [max_eq_left large] at he
      rw [← he] at low
      refine Or.inr ⟨?_, low⟩
      exact_mod_cast (whole (2 ^ 52) (by decide)).mono near (by exact_mod_cast low)
  refine ⟨M, e, ?_, near, le_max_right _ _, atMost, below, full⟩
  rw [packed, place_pack atMost (le_max_right _ _) (full.symm.imp_left And.left)]

theorem zero_le_reached {q : ℚ} (h : 0 ≤ q) : 0 ≤ reached q := by
  have zero : reached 0 = 0 := by
    rw [reached, if_pos (by norm_num)]
    rfl
  rw [← zero]
  exact reached_mono h

theorem place_zero (s : Bool) : (zeroOf s).place = 0 := by
  cases s <;> simp [zeroOf, place, signed, size]

/-- Of two quotients the greater is not rounded below the other. -/
theorem place_ofRatio_mono {m n c d : Nat} (hc : 0 < c) (hd : 0 < d)
    (le : (m : ℚ) / c ≤ n / d) : (ofRatio false m c).place ≤ (ofRatio false n d).place := by
  rcases Nat.eq_zero_or_pos m with rfl | hm
  · have zero : ofRatio false 0 c = zeroOf false := by rw [ofRatio, if_pos rfl]
    rw [zero, place_zero]
    rcases Nat.eq_zero_or_pos n with rfl | hn
    · rw [ofRatio, if_pos rfl, place_zero]
    · obtain ⟨M, e, place, -⟩ := exists_place_ofRatio hn hd
      rw [place]
      exact zero_le_reached (mul_nonneg (Nat.cast_nonneg M) (two_zpow_pos e).le)
  have some : (0 : ℚ) < n / d := lt_of_lt_of_le (by positivity) le
  have hn : 0 < n := by
    by_contra none
    rw [Nat.eq_zero_of_not_pos none] at some
    simp at some
  obtain ⟨M, e, place, near, least, high, below, full⟩ := exists_place_ofRatio hm hc
  obtain ⟨N, f, place', near', least', -, below', full'⟩ := exists_place_ofRatio hn hd
  rw [place, place']
  apply reached_mono
  rcases lt_trichotomy e f with less | rfl | more
  · -- The second significand is full, at a greater exponent.
    obtain ⟨filled, -⟩ := full'.resolve_left (by omega)
    calc size M e ≤ size (2 ^ 53) e := size_le_size high
      _ = 2 ^ ((53 : ℕ) + e) := size_pow 53 e
      _ ≤ 2 ^ ((52 : ℕ) + f) := zpow_le_zpow_right₀ (by norm_num) (by push_cast; omega)
      _ = size (2 ^ 52) f := (size_pow 52 f).symm
      _ ≤ size N f := size_le_size filled
  · have scaled : (m : ℚ) / c / 2 ^ e ≤ n / d / 2 ^ e :=
      div_le_div_of_nonneg_right le (two_zpow_pos e).le
    exact size_le_size (by exact_mod_cast near.mono near' scaled)
  · -- The first quotient would be beyond the binade of the second.
    obtain ⟨-, low⟩ := full.resolve_left (by omega)
    rw [le_div_iff₀ (two_zpow_pos e)] at low
    rw [div_lt_iff₀ (two_zpow_pos f)] at below'
    have step : (2 : ℚ) ^ 53 * 2 ^ f ≤ 2 ^ 52 * 2 ^ e := by
      calc (2 : ℚ) ^ 53 * 2 ^ f = 2 ^ ((53 : ℕ) + f) := by rw [← size_pow]; push_cast [size]; rfl
        _ ≤ 2 ^ ((52 : ℕ) + e) := zpow_le_zpow_right₀ (by norm_num) (by push_cast; omega)
        _ = 2 ^ 52 * 2 ^ e := by rw [← size_pow]; push_cast [size]; rfl
    linarith

/-! ### Quantities of either sign -/

/-- What a finite double stands for; any other stands for nothing. -/
def value : Double → ℚ
  | .finite s m e _ => signed s m e
  | _ => 0

theorem place_of_isFinite {x : Double} (finite : x.isFinite = true) :
    x.place = ((x.value : WithTop ℚ) : WithBot (WithTop ℚ)) := by
  cases x with
  | finite s m e h => rfl
  | nan | infinite => cases finite

/-- The double nearest to a quantity. -/
def rounded (q : ℚ) : Double := ofRatio (decide (q < 0)) q.num.natAbs q.den

theorem signed_not (s : Bool) (m : Nat) (e : Int) : signed (!s) m e = -signed s m e := by
  cases s <;> simp [signed]

theorem place_neg_le {x y : Double} : x.neg.place ≤ y.neg.place ↔ y.place ≤ x.place := by
  have below (q : ℚ) : ((q : WithTop ℚ) : WithBot (WithTop ℚ)) < ⊤ :=
    WithBot.coe_lt_coe.mpr (WithTop.coe_lt_top q)
  have above (q : ℚ) : ⊥ < ((q : WithTop ℚ) : WithBot (WithTop ℚ)) := WithBot.bot_lt_coe _
  have order (p q : ℚ) : ((p : WithTop ℚ) : WithBot (WithTop ℚ)) ≤ ((q : WithTop ℚ) : _) ↔ p ≤ q :=
    WithBot.coe_le_coe.trans WithTop.coe_le_coe
  have zero : (0 : WithBot (WithTop ℚ)) = (((0 : ℚ) : WithTop ℚ) : _) := rfl
  rcases x with _ | (_ | _) | _ <;> rcases y with _ | (_ | _) | _ <;>
    simp only [neg, place, zero, signed_not, order, Bool.not_true, Bool.not_false, le_refl, le_top,
      bot_le, (below _).not_ge, (above _).not_ge, neg_le_neg_iff, neg_nonpos, neg_nonneg]

theorem ofRatio_neg (n d : Nat) : ofRatio true n d = (ofRatio false n d).neg := by
  unfold ofRatio pack
  split
  · rfl
  · simp only
    split
    · rfl
    · split <;> rfl

theorem zero_le_place_ofRatio (n : Nat) {d : Nat} (hd : 0 < d) : 0 ≤ (ofRatio false n d).place := by
  have zero : ofRatio false 0 1 = zeroOf false := by rw [ofRatio, if_pos rfl]
  rw [← place_zero false, ← zero]
  exact place_ofRatio_mono Nat.one_pos hd (by simp; positivity)

theorem natAbs_num_div_den (q : ℚ) : (q.num.natAbs : ℚ) / q.den = |q| := by
  rw [Nat.cast_natAbs, Int.cast_abs, ← Nat.abs_cast q.den, ← abs_div, Rat.num_div_den]

theorem place_ofRatio_of_abs {q : ℚ} {n d : Nat} (hd : 0 < d) (same : (n : ℚ) / d = |q|) :
    (ofRatio (decide (q < 0)) n d).place = (rounded q).place := by
  have magnitude := (natAbs_num_div_den q).trans same.symm
  have le := place_ofRatio_mono hd q.den_pos magnitude.ge
  have ge := place_ofRatio_mono q.den_pos hd magnitude.le
  rw [rounded]
  cases decide (q < 0) with
  | false => exact le_antisymm le ge
  | true =>
    rw [ofRatio_neg, ofRatio_neg]
    exact le_antisymm (place_neg_le.mpr ge) (place_neg_le.mpr le)

theorem place_rounded_mono {p q : ℚ} (le : p ≤ q) : (rounded p).place ≤ (rounded q).place := by
  have positive (r : ℚ) := zero_le_place_ofRatio r.num.natAbs r.den_pos
  have magnitude {r : ℚ} (h : 0 ≤ r) := (natAbs_num_div_den r).trans (abs_of_nonneg h)
  rw [rounded, rounded]
  by_cases below : p < 0
  · rw [decide_eq_true below, ofRatio_neg]
    by_cases below' : q < 0
    · rw [decide_eq_true below', ofRatio_neg, place_neg_le]
      apply place_ofRatio_mono q.den_pos p.den_pos
      rw [natAbs_num_div_den, natAbs_num_div_den, abs_of_neg below, abs_of_neg below']
      exact neg_le_neg le
    · rw [decide_eq_false below']
      refine le_trans ?_ (positive q)
      rw [← place_zero true, show zeroOf true = (zeroOf false).neg from rfl, place_neg_le,
        place_zero]
      exact positive p
  · have above : 0 ≤ p := not_lt.mp below
    rw [decide_eq_false below, decide_eq_false (not_lt.mpr (above.trans le))]
    apply place_ofRatio_mono p.den_pos q.den_pos
    rwa [magnitude above, magnitude (above.trans le)]

theorem signed_zero (s : Bool) (e : Int) : signed s 0 e = 0 := by
  cases s <;> simp [signed, size]

theorem place_rounded_zero : (rounded 0).place = 0 := place_zero false

/-- A finite double is the one nearest to what it stands for. -/
theorem place_rounded_value {x : Double} (finite : x.isFinite = true) :
    (rounded x.value).place = x.place := by
  cases x with
  | nan | infinite => cases finite
  | finite s m e h =>
    change (rounded (signed s m e)).place = _
    rcases Nat.eq_zero_or_pos m with rfl | hm
    · rw [place, signed_zero, place_rounded_zero]
      rfl
    · have positive : 0 < size m e := mul_pos (by exact_mod_cast hm) (two_zpow_pos e)
      have magnitude : ((quotient m e).1 : ℚ) / (quotient m e).2 = |signed s m e| := by
        rw [quotient_size]
        cases s <;> simp [signed, abs_of_pos positive]
      have sign : decide (signed s m e < 0) = s := by
        cases s <;> simp [signed, positive, positive.le]
      have some : 0 < (quotient m e).1 := by
        rw [← quotient_size] at positive
        by_contra none
        rw [Nat.eq_zero_of_not_pos none] at positive
        simp at positive
      rw [← place_ofRatio_of_abs (quotient_pos m e) magnitude, sign,
        ofRatio_of_contains h hm some (quotient_pos m e) _ s]
      rw [quotient_size, size, two_zpow_sub]
      have quarters : (m : ℚ) * 2 ^ e / (2 ^ e / 2 ^ (2 : ℤ)) = 4 * m := by
        have := (two_zpow_pos e).ne'
        field_simp
        norm_num
      have gap : 0 < Digits.reach m := by
        unfold Digits.reach
        split <;> norm_num
      rw [quarters]
      exact Digits.contains_of_near hm (by linarith) (by linarith)

theorem place_ofScaled (total unit : Int) :
    (ofScaled (decide (total < 0)) total.natAbs unit).place =
      (rounded (total * 2 ^ unit)).place := by
  have positive := two_zpow_pos unit
  have sign : decide (total < 0) = decide ((total : ℚ) * 2 ^ unit < 0) := by
    rw [decide_eq_decide, mul_neg_iff]
    simp [positive, positive.le]
  have magnitude : |(total : ℚ) * 2 ^ unit| = total.natAbs * 2 ^ unit := by
    rw [abs_mul, abs_of_pos positive, Nat.cast_natAbs, Int.cast_abs]
  rw [sign]
  unfold ofScaled
  split
  · apply place_ofRatio_of_abs Nat.one_pos
    rw [magnitude]
    simp
  · apply place_ofRatio_of_abs (Nat.two_pow_pos _)
    rw [magnitude, zpow_negSucc]
    simp [div_eq_mul_inv]

/-- A difference of finite doubles is the exact difference, rounded. -/
theorem place_sub {x y : Double} (finiteX : x.isFinite = true) (finiteY : y.isFinite = true) :
    (x.sub y).place = (rounded (x.value - y.value)).place := by
  cases x with
  | nan | infinite => cases finiteX
  | finite s m e _ => cases y with
    | nan | infinite => cases finiteY
    | finite t n f _ =>
      have exact : ((inUnits s m e (min e f) + inUnits (!t) n f (min e f) : Int) : ℚ) *
          2 ^ min e f = signed s m e - signed t n f := by
        rw [Int.cast_add, add_mul, inUnits_mul s m (min_le_left e f),
          inUnits_mul (!t) n (min_le_right e f), signed_not, sub_eq_add_neg]
      change (add (.finite s m e _) (.finite (!t) n f _)).place =
        (rounded (signed s m e - signed t n f)).place
      rw [← exact, add]
      generalize inUnits s m e (min e f) + inUnits (!t) n f (min e f) = total
      split
      · next none => rw [none, place_zero, Int.cast_zero, zero_mul, place_rounded_zero]
      · exact place_ofScaled total (min e f)

end Double
end MetricDesk
