import MetricDesk.Narration.Fallback
import MetricDesk.Proofs.Narration.Numerals
import MetricDesk.Proofs.Number.Hundredths

/-! The amounts of the fallback sentence. Main statement: `numeral_amount`, a finite double rounded
to two decimal places is written as one numeral, which agrees with it to two places. -/
namespace MetricDesk.Fallback
open Digits (Decimal)

theorem isDigit_of_plain {c : Char} (h : c.isDigit = true) : Text.isDigit c = true := by
  have digits : ∀ n < 10, Text.isDigit (Nat.digitChar n) = true := by decide
  obtain ⟨n, small, rfl⟩ := Reading.digitChar_of_isDigit h
  exact digits n small

theorem value_bounds {d : Decimal} (some : 0 < d.coefficient) :
    (10 : ℚ) ^ (d.exponent + (Digits.ofNat d.coefficient).length - 1) ≤ d.value ∧
      d.value < 10 ^ (d.exponent + (Digits.ofNat d.coefficient).length) := by
  set k := (Digits.ofNat d.coefficient).length with hk
  have length (n : Nat) (pos : 0 < n) : k ≤ n ↔ d.coefficient < 10 ^ n :=
    Nat.length_toDigits_le_iff (by norm_num) pos
  have pos : 0 < k := List.length_pos_iff.mpr (Reading.ofNat_ne_nil _)
  have high : d.coefficient < 10 ^ k := (length k pos).mp le_rfl
  have low : 10 ^ (k - 1) ≤ d.coefficient := by
    by_cases first : k = 1
    · rw [first]
      exact some
    · by_contra less
      have := (length (k - 1) (by omega)).mpr (not_le.mp less)
      omega
  have unit := Digits.ten_zpow_pos d.exponent
  unfold Decimal.value
  constructor
  · have split : d.exponent + k - 1 = ((k - 1 : ℕ) : ℤ) + d.exponent := by omega
    rw [split, zpow_add₀ (by norm_num), zpow_natCast]
    exact mul_le_mul_of_nonneg_right (by exact_mod_cast low) unit.le
  · rw [add_comm, zpow_add₀ (by norm_num), zpow_natCast]
    exact mul_lt_mul_of_pos_right (by exact_mod_cast high) unit

/-- Between a ten-thousandth and ten quadrillions a decimal is written as digits, a point and
digits. -/
theorem write_positional {d : Decimal} (some : 0 < d.coefficient)
    (low : (10 : ℚ) ^ (-4 : ℤ) ≤ d.value) (high : d.value < 10 ^ (16 : ℤ)) :
    ∃ whole part, Layout.plain.write d = whole ++ '.' :: part ∧ whole ≠ [] ∧ part ≠ [] ∧
      ∀ c ∈ whole ++ part, c.isDigit = true := by
  obtain ⟨atLeast, below⟩ := value_bounds some
  have found : 0 < (Digits.ofNat d.coefficient).length :=
    List.length_pos_iff.mpr (Reading.ofNat_ne_nil _)
  have run (c : Char) (h : c ∈ Digits.ofNat d.coefficient) : c.isDigit = true :=
    Reading.isDigit_ofNat h
  have zeros {k : Nat} {c : Char} (h : c ∈ List.replicate k '0') : c.isDigit = true :=
    Reading.isDigit_zeros h
  have least := (zpow_lt_zpow_iff_right₀ (by norm_num)).mp (low.trans_lt below)
  have limit := (zpow_lt_zpow_iff_right₀ (by norm_num)).mp (atLeast.trans_lt high)
  unfold Layout.write
  generalize Digits.ofNat d.coefficient = ds at *
  simp only [Layout.plain]
  rw [if_pos ⟨by omega, limit⟩]
  split_ifs with whole first
  · refine ⟨ds ++ List.replicate d.exponent.toNat '0', ['0'], by simp, ?_, by simp, ?_⟩
    · intro empty
      rw [(List.append_eq_nil_iff.mp empty).1] at found
      exact absurd found (lt_irrefl 0)
    · simp only [List.forall_mem_append]
      exact ⟨⟨run, fun c => zeros⟩, by simp⟩
  · refine ⟨_, _, rfl, ?_, ?_, ?_⟩
    · rw [ne_eq, List.take_eq_nil_iff, not_or]
      exact ⟨by omega, fun empty => by rw [empty] at found; exact absurd found (lt_irrefl 0)⟩
    · rw [ne_eq, List.drop_eq_nil_iff]
      omega
    · rw [List.take_append_drop]
      exact run
  · refine ⟨['0'], List.replicate _ '0' ++ ds, rfl, by simp, ?_, ?_⟩
    · intro empty
      rw [(List.append_eq_nil_iff.mp empty).2] at found
      exact absurd found (lt_irrefl 0)
    · simp only [List.forall_mem_append]
      exact ⟨by simp, fun c => zeros, run⟩

/-! ### Doubles with two decimal places -/

/-- What rounding leaves of a double is zero or not much less than a hundredth. -/
theorem size_of_round {y : Double} {s : Bool} {m : Nat} {e : Int} {h : Double.Canonical m e}
    (rounded : y.round 2 = .finite s m e h) (some : m ≠ 0) : 1 / 200 ≤ Double.size m e := by
  cases y with
  | nan => cases rounded
  | infinite => cases rounded
  | finite t n f h' =>
    have counted : Double.placesOf 2 n f ≠ 0 := by
      intro none
      change Double.ofRatio t (Double.placesOf 2 n f) (Nat.pow 10 2) = _ at rounded
      rw [none, Double.ofRatio, if_pos rfl] at rounded
      cases rounded
      exact some rfl
    obtain ⟨k, g, h'', found, kept⟩ := Double.placesOf_round h' t
    rw [found] at rounded
    cases rounded
    have near := (Double.placesOf_near m e).1
    have one : (1 : ℚ) ≤ (Double.placesOf 2 m e : ℕ) := by
      exact_mod_cast Nat.one_le_iff_ne_zero.mpr (by rwa [kept])
    rw [abs_le] at near
    push_cast at near
    linarith

/-- A number with a fraction is read back as it stands. -/
theorem numeral_fraction {y : Double} {s : Bool} {m : Nat} {e : Int} {h : Double.Canonical m e}
    (rounded : y.round 2 = .finite s m e h) (part : (Double.finite s m e h).isWhole = false) :
    ∃ n : Numeral, n.WellFormed ∧ (Double.finite s m e h).text.toList = n.chars ∧
      n.value = .finite s m e h := by
  have some : m ≠ 0 := by
    rintro rfl
    unfold Double.isWhole Double.quotient at part
    cases e <;> simp at part
  have below : e < 0 := by
    by_contra least
    obtain ⟨k, rfl⟩ := Int.eq_ofNat_of_zero_le (not_lt.mp least)
    simp [Double.isWhole, Double.quotient, Nat.mod_one] at part
  have positive := Nat.pos_of_ne_zero some
  have large := size_of_round rounded some
  have one : (1 : ℚ) ≤ m := by exact_mod_cast positive
  have mBelow : (m : ℚ) ≤ 2 ^ 53 := by exact_mod_cast h.1.le
  obtain ⟨low, high⟩ := Double.contains_size positive (Digits.shortest_contains h positive)
  have unit := Double.two_zpow_pos e
  have half : (2 : ℚ) ^ e ≤ 1 / 2 := by
    calc (2 : ℚ) ^ e ≤ 2 ^ (-1 : ℤ) := zpow_le_zpow_right₀ (by norm_num) (by omega)
      _ = 1 / 2 := by norm_num
  have atLeast : (10 : ℚ) ^ (-4 : ℤ) ≤ (Digits.shortest m e).value := by
    calc (10 : ℚ) ^ (-4 : ℤ) ≤ 1 / 2 * (1 / 200) := by norm_num
      _ ≤ 1 / 2 * (m * 2 ^ e) := mul_le_mul_of_nonneg_left large (by norm_num)
      _ = m / 2 * 2 ^ e := by ring
      _ ≤ (m - 1 / 2) * 2 ^ e := mul_le_mul_of_nonneg_right (by linarith) unit.le
      _ ≤ _ := low
  have limit : (Digits.shortest m e).value < 10 ^ (16 : ℤ) := by
    calc (Digits.shortest m e).value ≤ (m + 1 / 2) * 2 ^ e := high
      _ ≤ (2 ^ 53 + 1 / 2) * (1 / 2) :=
        mul_le_mul (by linarith) half unit.le (by norm_num)
      _ < 10 ^ (16 : ℤ) := by norm_num
  have coefficient : 0 < (Digits.shortest m e).coefficient := by
    by_contra none
    rw [Digits.Decimal.value, Nat.eq_zero_of_not_pos none] at atLeast
    norm_num at atLeast
  obtain ⟨whole, fraction, text, wholeSome, fractionSome, digits⟩ :=
    write_positional coefficient atLeast limit
  have formed : (⟨s, whole, fraction⟩ : Numeral).WellFormed :=
    { whole := fun c mem => isDigit_of_plain (digits c (List.mem_append_left _ mem))
      some := wholeSome
      fraction := fun c mem => isDigit_of_plain (digits c (List.mem_append_right _ mem)) }
  have chars : (Double.finite s m e h).text.toList = (⟨s, whole, fraction⟩ : Numeral).chars := by
    have parted : fraction.isEmpty = false := List.isEmpty_eq_false_iff.mpr fractionSome
    rw [Double.text, Layout.double, if_neg some, Layout.signed, String.toList_ofList, text,
      Numeral.chars, parted]
    cases s <;> simp
  refine ⟨_, formed, chars, ?_⟩
  have read := Numeral.double?_text formed
  rw [Numeral.text, ← chars, String.ofList_toList, Double.text,
    Reading.double?_layout Reading.legible_plain] at read
  exact (Option.some.inj read).symm

theorem numberOf_ofNat (n : Nat) : Text.numberOf (Digits.ofNat n) = n := by
  have digits : ∀ d < 10, Text.digitOf? (Nat.digitChar d) = some d := by decide
  have same (ds : List Char) (run : ∀ c ∈ ds, c.isDigit = true) : Reading.plainDigits ds = ds := by
    induction ds with
    | nil => rfl
    | cons c cs ih =>
      rw [List.forall_mem_cons] at run
      obtain ⟨d, small, rfl⟩ := Reading.digitChar_of_isDigit run.1
      rw [Numeral.plainDigits_cons (digits d small), ih run.2]
  have run (c : Char) (h : c ∈ Digits.ofNat n) : c.isDigit = true := Reading.isDigit_ofNat h
  rw [← Numeral.naturalOf_plainDigits fun c h => isDigit_of_plain (run c h), same _ run,
    Reading.naturalOf_ofNat]

/-- A whole double is the one nearest to its whole number. -/
theorem ofDecimal_whole {m q : Nat} {e : Int} (h : Double.Canonical m e) (some : 0 < m)
    (whole : (q : ℚ) = Double.size m e) (s : Bool) :
    Double.ofDecimal s q 0 = .finite s m e h := by
  apply Double.ofDecimal_of_contains h some
  have unit := Double.two_zpow_pos (e - 2)
  have middle : (q : ℚ) * 10 ^ (0 : ℤ) / 2 ^ (e - 2) = 4 * m := by
    rw [whole, Double.size, Double.two_zpow_sub]
    field_simp
    norm_num
  rw [middle]
  exact Digits.contains_middle some e

/-- A double without a fraction is written exactly. -/
theorem numeral_whole {x : Double} (whole : x.isWhole = true) :
    ∃ n : Numeral, n.WellFormed ∧ (toString (x.toInt?.getD 0)).toList = n.chars ∧
      n.value.cents = x.cents := by
  cases x with
  | nan => cases whole
  | infinite => cases whole
  | finite s m e h =>
    have pos := Double.quotient_pos m e
    have size := Double.quotient_size m e
    simp only [Double.isWhole, beq_iff_eq] at whole
    simp only [Double.toInt?, Option.getD_some, Rounding.truncated]
    obtain ⟨q, exact⟩ := Nat.dvd_of_mod_eq_zero whole
    have quotient : (Double.quotient m e).1 / (Double.quotient m e).2 = q := by
      rw [exact, Nat.mul_div_cancel_left _ pos]
    have sized : (q : ℚ) = Double.size m e := by
      have divisor : ((Double.quotient m e).2 : ℚ) ≠ 0 := by exact_mod_cast pos.ne'
      rw [← size, exact, Nat.cast_mul, mul_div_cancel_left₀ _ divisor]
    rw [quotient, toList_toString]
    have formed (t : Bool) : (⟨t, Digits.ofNat q, []⟩ : Numeral).WellFormed :=
      { whole := fun c mem => isDigit_of_plain (Reading.isDigit_ofNat mem)
        some := Reading.ofNat_ne_nil q
        fraction := by simp }
    have value (t : Bool) : (⟨t, Digits.ofNat q, []⟩ : Numeral).value = Double.ofDecimal t q 0 := by
      simp only [Numeral.value, List.append_nil, numberOf_ofNat]
      rfl
    have chars (t : Bool) (k : Int) (size : k.natAbs = q) (sign : k < 0 ↔ t = true) :
        (if k < 0 then '-' :: Digits.ofNat k.natAbs else Digits.ofNat k.natAbs) =
          (⟨t, Digits.ofNat q, []⟩ : Numeral).chars := by
      rw [size]
      simp only [sign]
      cases t <;> simp [Numeral.chars]
    rcases Nat.eq_zero_or_pos m with rfl | some
    · have least : e = -1074 := h.2.2.2.resolve_left (by norm_num)
      subst least
      have zero : q = 0 := by exact_mod_cast (by simpa [Double.size] using sized : (q : ℚ) = 0)
      refine ⟨_, formed false, chars false _ (by cases s <;> simp) (by simp [zero]), ?_⟩
      rw [value, zero]
      change _ = (Double.zeroOf s).cents
      cases s <;> decide +kernel
    · have positive : 0 < q := by
        have : (0 : ℚ) < q := by
          rw [sized]
          exact Digits.size_pos some e
        exact_mod_cast this
      refine ⟨_, formed s, chars s _ (by cases s <;> simp) (by cases s <;> simp [positive]), ?_⟩
      rw [value, ofDecimal_whole h some sized]

/-- A rounded amount is one numeral that agrees with it. -/
theorem numeral_amount {x y : Double} (rounded : x = y.round 2) (finite : x.isFinite = true) :
    ∃ n : Numeral, n.WellFormed ∧ (amount x).toList = n.chars ∧ n.value.cents = x.cents := by
  unfold amount
  split
  · next whole => exact numeral_whole whole
  · next part =>
    cases x with
    | nan => cases finite
    | infinite => cases finite
    | finite s m e h =>
      obtain ⟨n, formed, chars, value⟩ :=
        numeral_fraction rounded.symm (Bool.eq_false_iff.mpr part)
      exact ⟨n, formed, chars, by rw [value]⟩

end MetricDesk.Fallback
