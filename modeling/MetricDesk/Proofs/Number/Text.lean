import MetricDesk.Number.Reading
import MetricDesk.Proofs.Number.Shortest

/-! Texts of doubles. Main statement: `double?_layout`, the text of a double is read as that double,
whichever words its layout has for what is no finite number. -/
namespace MetricDesk.Reading
open Digits (Decimal ten_zpow_pos)

/-! ### Runs of digits -/

theorem naturalOf_eq (ds : List Char) : naturalOf ds = Nat.ofDigitChars 10 ds 0 :=
  Nat.ofDigitChars_eq_foldl.symm

theorem naturalOf_ofNat (n : Nat) : naturalOf (Digits.ofNat n) = n := by
  rw [naturalOf_eq]
  exact Nat.ofDigitChars_ten_toDigits

theorem naturalOf_zeros_append (k : Nat) (ds : List Char) :
    naturalOf (List.replicate k '0' ++ ds) = naturalOf ds := by
  rw [naturalOf_eq, naturalOf_eq, Nat.ofDigitChars_append, Nat.ofDigitChars_replicate_zero,
    Nat.mul_zero]

theorem naturalOf_append_zeros (ds : List Char) (k : Nat) :
    naturalOf (ds ++ List.replicate k '0') = naturalOf ds * 10 ^ k := by
  rw [naturalOf_eq, naturalOf_eq, Nat.ofDigitChars_append, Nat.ofDigitChars_replicate_zero,
    Nat.mul_comm]

theorem isDigit_ofNat {n : Nat} {c : Char} (h : c ∈ Digits.ofNat n) : c.isDigit = true :=
  Nat.isDigit_of_mem_toDigits (by decide) (by decide) h

theorem ofNat_ne_nil (n : Nat) : Digits.ofNat n ≠ [] := Nat.toDigits_ne_nil

theorem isDigit_zeros {k : Nat} {c : Char} (h : c ∈ List.replicate k '0') : c.isDigit = true := by
  rw [List.eq_of_mem_replicate h]
  rfl

/-- What follows a run of digits does not go on with one. -/
def Ends (rest : List Char) : Prop := ∀ c ∈ rest.head?, c.isDigit = false

theorem noTail : Ends [] := by
  rintro c ⟨⟩

theorem digits_append {ds rest : List Char} (run : ∀ c ∈ ds, c.isDigit = true)
    (ends : Ends rest) : digits (ds ++ rest) = (ds, rest) := by
  have taken : rest.takeWhile Char.isDigit = [] ∧ rest.dropWhile Char.isDigit = rest := by
    cases rest with
    | nil => exact ⟨rfl, rfl⟩
    | cons c cs =>
      have := ends c rfl
      constructor
      · rw [List.takeWhile_cons_of_neg (by simp [this])]
      · rw [List.dropWhile_cons_of_neg (by simp [this])]
  rw [digits, List.takeWhile_append_of_pos run, List.dropWhile_append_of_pos run, taken.1, taken.2,
    List.append_nil]

theorem digits_run {ds : List Char} (run : ∀ c ∈ ds, c.isDigit = true) :
    digits ds = (ds, []) := by
  have split : digits (ds ++ []) = (ds, []) := digits_append run noTail
  rwa [List.append_nil] at split

/-! ### Decimals -/

theorem isDigit_padded {width n : Nat} {c : Char} (h : c ∈ Digits.padded width n) :
    c.isDigit = true := by
  rcases List.mem_append.mp h with zeros | digits
  · exact isDigit_zeros zeros
  · exact isDigit_ofNat digits

theorem naturalOf_padded (width n : Nat) : naturalOf (Digits.padded width n) = n := by
  rw [Digits.padded, naturalOf_zeros_append, naturalOf_ofNat]

theorem padded_ne_nil (width n : Nat) : Digits.padded width n ≠ [] := by
  intro empty
  exact ofNat_ne_nil n (List.append_eq_nil_iff.mp empty).2

theorem exponent_write (e : Int) : exponent (Layout.exponent e) = some e := by
  have run : digits (Digits.padded 2 e.natAbs) = (Digits.padded 2 e.natAbs, []) :=
    digits_run fun c h => isDigit_padded h
  have some : (Digits.padded 2 e.natAbs).isEmpty = false := by
    rw [List.isEmpty_eq_false_iff]
    exact padded_ne_nil 2 e.natAbs
  unfold Layout.exponent
  split
  · simp only [exponent, sign, run, some, naturalOf_padded, List.isEmpty_nil, Bool.not_true,
      Bool.or_self, Bool.false_eq_true, if_false, if_true, Option.some.injEq]
    omega
  · simp only [exponent, sign, run, some, naturalOf_padded, List.isEmpty_nil, Bool.not_true,
      Bool.or_self, Bool.false_eq_true, if_false, Option.some.injEq]
    omega

theorem ends_exponent (e : Int) : Ends (Layout.exponent e) := by
  rintro c ⟨⟩
  rfl

/-- Digits, a point, digits and the exponent part. -/
theorem decimal_point {whole part tail : List Char} {e : Int}
    (wholeRun : ∀ c ∈ whole, c.isDigit = true) (partRun : ∀ c ∈ part, c.isDigit = true)
    (found : whole ≠ []) (ends : Ends tail) (read : exponent tail = some e) (neg : Bool) :
    decimal neg (whole ++ '.' :: (part ++ tail)) =
      some (Double.ofDecimal neg (naturalOf (whole ++ part)) (e - part.length)) := by
  have point : Ends ('.' :: (part ++ tail)) := by rintro c ⟨⟩; rfl
  simp only [decimal, digits_append wholeRun point, digits_append partRun ends, read,
    Option.map_some]
  rw [if_neg]
  simp [found]

/-- Digits and the exponent part, without a point. -/
theorem decimal_whole {whole : List Char} {e : Int} (wholeRun : ∀ c ∈ whole, c.isDigit = true)
    (found : whole ≠ []) (neg : Bool) :
    decimal neg (whole ++ Layout.exponent e) =
      some (Double.ofDecimal neg (naturalOf whole) e) := by
  have read := exponent_write e
  have split := digits_append wholeRun (ends_exponent e)
  unfold Layout.exponent at read split ⊢
  simp only [decimal, split]
  rw [if_neg]
  · simp [read]
  · simp [found]

/-- A decimal with a point and no exponent part. -/
theorem decimal_positional {whole part : List Char} (wholeRun : ∀ c ∈ whole, c.isDigit = true)
    (partRun : ∀ c ∈ part, c.isDigit = true) (found : whole ≠ []) (neg : Bool) :
    decimal neg (whole ++ '.' :: part) =
      some (Double.ofDecimal neg (naturalOf (whole ++ part)) (-(part.length : Int))) := by
  have read := decimal_point wholeRun partRun found noTail (e := 0) rfl neg
  rwa [List.append_nil, Int.zero_sub] at read

/-- Digits alone. -/
theorem decimal_digits {ds : List Char} (run : ∀ c ∈ ds, c.isDigit = true) (found : ds ≠ [])
    (neg : Bool) : decimal neg ds = some (Double.ofDecimal neg (naturalOf ds) 0) := by
  simp only [decimal, digits_run run]
  rw [if_neg]
  · simp [exponent]
  · simp [found]

/-- The text of a decimal is read as a decimal of the same value. -/
theorem decimal_write {l : Layout} (point : l.point = true) (d : Decimal) (neg : Bool) :
    ∃ c p, decimal neg (l.write d) = some (Double.ofDecimal neg c p) ∧
      (⟨c, p⟩ : Decimal).value = d.value := by
  have run (c : Char) : c ∈ Digits.ofNat d.coefficient → c.isDigit = true := isDigit_ofNat
  have found := ofNat_ne_nil d.coefficient
  have same := naturalOf_ofNat d.coefficient
  have longer : 0 < (Digits.ofNat d.coefficient).length := List.length_pos_iff.mpr found
  have zero : ∀ c ∈ ['0'], c.isDigit = true := by simp
  unfold Layout.write
  generalize Digits.ofNat d.coefficient = ds at *
  simp only [point, if_true]
  split_ifs with positional whole above
  · have wholeRun : ∀ c ∈ ds ++ List.replicate d.exponent.toNat '0', c.isDigit = true := by
      intro c h
      exact (List.mem_append.mp h).elim (run c) isDigit_zeros
    refine ⟨_, _, decimal_positional wholeRun zero (by simp [found]) neg, ?_⟩
    have zeros : ['0'] = List.replicate 1 '0' := rfl
    obtain ⟨k, exponent⟩ := Int.eq_ofNat_of_zero_le whole
    rw [zeros, naturalOf_append_zeros, naturalOf_append_zeros, same, exponent]
    simp only [Decimal.value, exponent, Int.toNat_natCast, List.length_replicate, zpow_natCast]
    push_cast
    rw [zpow_neg_one]
    field_simp
  · have wholeRun : ∀ c ∈ ds.take (d.exponent + ds.length - 1 + 1).toNat, c.isDigit = true :=
      fun c h => run c (List.mem_of_mem_take h)
    have partRun : ∀ c ∈ ds.drop (d.exponent + ds.length - 1 + 1).toNat, c.isDigit = true :=
      fun c h => run c (List.mem_of_mem_drop h)
    have taken : ds.take (d.exponent + ds.length - 1 + 1).toNat ≠ [] := by
      rw [Ne, List.take_eq_nil_iff]
      rintro (none | empty)
      · omega
      · exact found empty
    refine ⟨_, _, decimal_positional wholeRun partRun taken neg, ?_⟩
    have place : -((ds.length - (d.exponent + ds.length - 1 + 1).toNat : Nat) : Int) =
        d.exponent := by omega
    rw [List.take_append_drop, same, List.length_drop, place]
  · have partRun : ∀ c ∈ List.replicate (-(d.exponent + ds.length - 1) - 1).toNat '0' ++ ds,
        c.isDigit = true := by
      intro c h
      exact (List.mem_append.mp h).elim isDigit_zeros (run c)
    refine ⟨_, _, decimal_positional zero partRun (by simp) neg, ?_⟩
    have zeros : ['0'] = List.replicate 1 '0' := rfl
    have place : -(((-(d.exponent + ds.length - 1) - 1).toNat + ds.length : Nat) : Int) =
        d.exponent := by omega
    rw [zeros, naturalOf_zeros_append, naturalOf_zeros_append, same, List.length_append,
      List.length_replicate, place]
  · match ds, found with
    | [c], _ =>
      refine ⟨_, _, decimal_whole run (by simp) neg, ?_⟩
      rw [same]
      simp
    | c :: next :: rest, _ =>
      have first : ∀ d ∈ [c], d.isDigit = true := fun d h => run d (by simp_all)
      have others : ∀ d ∈ next :: rest, d.isDigit = true :=
        fun d h => run d (List.mem_cons_of_mem c h)
      refine ⟨_, _, decimal_point first others (by simp) (ends_exponent _) (exponent_write _) neg,
        ?_⟩
      have place : d.exponent + (c :: next :: rest).length - 1 - (next :: rest).length =
          d.exponent := by simp only [List.length_cons]; omega
      rw [List.singleton_append, same, place]

/-! ### Texts without margins and underscores -/

theorem digitChar_of_isDigit {c : Char} (h : c.isDigit = true) : ∃ n < 10, c = Nat.digitChar n := by
  rw [Char.isDigit_iff_toNat] at h
  change 48 ≤ c.toNat ∧ c.toNat ≤ 57 at h
  refine ⟨c.toNat - 48, by omega, ?_⟩
  apply Char.toNat_inj.mp
  rw [Nat.toNat_digitChar_of_lt_ten (by omega)]
  omega

/-- Characters of which texts of finite doubles are made. -/
def isMark (c : Char) : Bool := c.isDigit || c == '.' || c == 'e' || c == '-' || c == '+'

/-- Characters that are read as they stand, wherever they stand. -/
def isPlain (c : Char) : Bool := !isMargin c && c != '_' && plainDigits [c] == [c]

theorem isPlain_of_isMark {c : Char} (h : isMark c = true) : isPlain c = true := by
  have digits : ∀ n < 10, isPlain (Nat.digitChar n) = true := by decide
  simp only [isMark, Bool.or_eq_true, beq_iff_eq] at h
  rcases h with (((digit | rfl) | rfl) | rfl) | rfl
  · obtain ⟨n, small, rfl⟩ := digitChar_of_isDigit digit
    exact digits n small
  all_goals decide

theorem withoutMargins_eq {cs : List Char} (h : ∀ c ∈ cs, isMargin c = false) :
    withoutMargins cs = cs := by
  have kept (ds : List Char) (h : ∀ c ∈ ds, isMargin c = false) : ds.dropWhile isMargin = ds := by
    cases ds with
    | nil => rfl
    | cons d ds => rw [List.dropWhile_cons_of_neg (by simp [h d List.mem_cons_self])]
  rw [withoutMargins, kept cs h, kept cs.reverse (by simpa using h), List.reverse_reverse]

theorem joined_eq {cs : List Char} (h : ∀ c ∈ cs, c ≠ '_') : joined cs = some cs := by
  induction cs with
  | nil => rfl
  | cons c cs ih =>
    have rest := ih fun d hd => h d (List.mem_cons_of_mem c hd)
    unfold joined
    split
    · contradiction
    · simp_all
    · simp_all
    · simp_all
    · simp_all

/-- A text of plain characters is read by its sign and its body. -/
theorem double?_plain {cs : List Char} (h : ∀ c ∈ cs, isPlain c = true) :
    double? (String.ofList cs) =
      (decimal (sign cs).1 (sign cs).2).orElse fun _ => word (sign cs).1 (sign cs).2 := by
  simp only [isPlain, Bool.and_eq_true, Bool.not_eq_true', bne_iff_ne, beq_iff_eq] at h
  have digits : plainDigits cs = cs := by
    refine (List.map_congr_left fun c hc => ?_).trans (List.map_id cs)
    exact List.singleton_inj.mp (h c hc).2
  rw [double?, String.toList_ofList, withoutMargins_eq fun c hc => (h c hc).1.1, digits,
    joined_eq fun c hc => (h c hc).1.2]
  rfl

/-! ### Texts of doubles -/

theorem marks_of_digits {ds : List Char} (run : ∀ c ∈ ds, c.isDigit = true) :
    ∀ c ∈ ds, isMark c = true := by
  intro c h
  simp [isMark, run c h]

theorem marks_exponent (e : Int) : ∀ c ∈ Layout.exponent e, isMark c = true := by
  have digits : ∀ c ∈ Digits.padded 2 e.natAbs, isMark c = true :=
    marks_of_digits fun c => isDigit_padded
  unfold Layout.exponent
  simp only [List.forall_mem_cons]
  refine ⟨rfl, ?_, digits⟩
  split <;> rfl

theorem marks_write (l : Layout) (d : Decimal) : ∀ c ∈ l.write d, isMark c = true := by
  have digits := marks_of_digits fun c => isDigit_ofNat (n := d.coefficient) (c := c)
  have zeros (k : Nat) := marks_of_digits fun c => isDigit_zeros (k := k) (c := c)
  have zero : isMark '0' = true := rfl
  have dot : isMark '.' = true := rfl
  unfold Layout.write
  generalize Digits.ofNat d.coefficient = ds at *
  simp only
  split_ifs
  · simp only [List.forall_mem_append, List.forall_mem_cons]
    exact ⟨⟨digits, zeros _⟩, dot, zero, by simp⟩
  · simp only [List.forall_mem_append]
    exact ⟨⟨digits, zeros _⟩, by simp⟩
  · simp only [List.forall_mem_append, List.forall_mem_cons]
    exact ⟨fun c h => digits c (List.mem_of_mem_take h), dot,
      fun c h => digits c (List.mem_of_mem_drop h)⟩
  · simp only [List.forall_mem_append, List.forall_mem_cons, List.cons_append]
    exact ⟨zero, dot, zeros _, digits⟩
  · split
    · rw [List.forall_mem_cons] at digits ⊢
      exact ⟨digits.1, marks_exponent _⟩
    · simp only [List.forall_mem_append, List.forall_mem_cons, List.cons_append] at digits ⊢
      exact ⟨digits.1, dot, digits.2, marks_exponent _⟩
    · simp

/-- A text that begins with a digit has no sign. -/
theorem sign_of_isDigit {c : Char} (cs : List Char) (h : c.isDigit = true) :
    sign (c :: cs) = (false, c :: cs) := by
  unfold sign
  split
  · next same => cases same; cases h
  · next same => cases same; cases h
  · rfl

theorem write_first (l : Layout) (d : Decimal) :
    ∃ c cs, l.write d = c :: cs ∧ c.isDigit = true := by
  have run (c : Char) : c ∈ Digits.ofNat d.coefficient → c.isDigit = true := isDigit_ofNat
  have found := ofNat_ne_nil d.coefficient
  unfold Layout.write
  generalize Digits.ofNat d.coefficient = ds at *
  cases ds with
  | nil => exact absurd rfl found
  | cons c cs =>
    have first := run c List.mem_cons_self
    simp only
    split_ifs with positional whole point above
    · exact ⟨_, _, rfl, first⟩
    · exact ⟨_, _, rfl, first⟩
    · obtain ⟨n, length⟩ : ∃ n, (d.exponent + (c :: cs).length - 1 + 1).toNat = n + 1 :=
        ⟨(d.exponent + (c :: cs).length - 1).toNat, by omega⟩
      rw [length]
      exact ⟨_, _, rfl, first⟩
    · exact ⟨_, _, rfl, rfl⟩
    · split
      · next same => cases same; exact ⟨_, _, rfl, first⟩
      · next same => cases same; exact ⟨_, _, rfl, first⟩
      · contradiction

theorem sign_signed (neg : Bool) {l : Layout} (d : Decimal) :
    sign (if neg then '-' :: l.write d else l.write d) = (neg, l.write d) := by
  obtain ⟨c, cs, text, digit⟩ := write_first l d
  cases neg with
  | false => rw [text]; exact sign_of_isDigit cs digit
  | true => rfl

/-- What a layout has to say for its texts to be read back. -/
structure Legible (l : Layout) : Prop where
  point : l.point = true
  nan : double? l.nan = some .nan
  infinity (neg : Bool) : double? (Layout.signed neg l.infinity.toList) = some (.infinite neg)

theorem legible_plain : Legible .plain where
  point := rfl
  nan := by decide
  infinity neg := by cases neg <;> decide

theorem legible_document : Legible .document where
  point := rfl
  nan := by decide
  infinity neg := by cases neg <;> decide

/-- The text of a double is read as that double. -/
theorem double?_layout {l : Layout} (legible : Legible l) (x : Double) :
    double? (l.double Digits.shortest x) = some x := by
  cases x with
  | nan => exact legible.nan
  | infinite neg => exact legible.infinity neg
  | finite neg m e h =>
    by_cases zero : m = 0
    · subst zero
      have least : e = -1074 := h.2.2.2.resolve_left (by norm_num)
      subst least
      simp only [Layout.double, if_true, Layout.zero, legible.point]
      change _ = some (Double.zeroOf neg)
      cases neg <;> decide
    · obtain ⟨c, p, read, value⟩ := decimal_write legible.point (Digits.shortest m e) neg
      have positive := Nat.pos_of_ne_zero zero
      have same : Double.ofDecimal neg c p = .finite neg m e h := by
        apply Double.ofDecimal_of_contains h positive
        have inside := Digits.shortest_contains h positive
        rwa [← value] at inside
      have marks : ∀ d ∈ (if neg then '-' :: l.write (Digits.shortest m e)
          else l.write (Digits.shortest m e)), isMark d = true := by
        split
        · exact List.forall_mem_cons.mpr ⟨rfl, marks_write l _⟩
        · exact marks_write l _
      rw [Layout.double, if_neg zero, Layout.signed,
        double?_plain fun d hd => isPlain_of_isMark (marks d hd), sign_signed, read, same]
      rfl

end MetricDesk.Reading

namespace MetricDesk

/-- The text of a whole number is its digits behind its sign. -/
theorem toList_toString (n : Int) :
    (toString n).toList =
      if n < 0 then '-' :: Digits.ofNat n.natAbs else Digits.ofNat n.natAbs := by
  cases n with
  | ofNat n =>
    rw [if_neg (by simp)]
    exact Nat.toList_repr
  | negSucc n =>
    rw [if_pos (Int.negSucc_lt_zero n), Int.toString_eq_repr, Int.repr, String.toList_append,
      Nat.toList_repr]
    rfl

theorem toString_injective {m n : Int} (h : toString m = toString n) : m = n := by
  have text := congrArg String.toList h
  rw [toList_toString, toList_toString] at text
  have digits {a b : Nat} (same : Digits.ofNat a = Digits.ofNat b) : a = b := by
    rw [← Reading.naturalOf_ofNat a, same, Reading.naturalOf_ofNat]
  have unsigned (a : Nat) (cs : List Char) : Digits.ofNat a ≠ '-' :: cs := by
    intro same
    have := Reading.isDigit_ofNat (n := a) (c := '-') (by rw [same]; exact List.mem_cons_self)
    cases this
  split_ifs at text
  · have := digits (List.cons.inj text).2
    omega
  · exact absurd text.symm (unsigned _ _)
  · exact absurd text (unsigned _ _)
  · have := digits text
    omega

end MetricDesk
