import MetricDesk.Calendar.Moment
import MetricDesk.Proofs.Number.Text
import Mathlib.Data.Nat.Digits.Defs

/-! Days as text. Main statement: `Date.length_iso`, the text of every day has ten characters, so
that the day can be cut off the front of the text of a moment: `Moment.take_iso`. -/
namespace MetricDesk

theorem Digits.length_padded {width n : Nat} (some : 0 < width) (small : n < 10 ^ width) :
    (padded width n).length = width := by
  have short : (ofNat n).length ≤ width := Nat.toDigits_length 10 n width some small
  rw [padded, List.length_append, List.length_replicate]
  omega

namespace Date

def yearLength (year : Nat) : Nat := if isLeap year then 366 else 365

theorem yearLength_pos (year : Nat) : 0 < yearLength year := by
  unfold yearLength
  split <;> decide

theorem daysBeforeYear_succ {year : Nat} (some : 1 ≤ year) :
    daysBeforeYear (year + 1) = daysBeforeYear year + yearLength year := by
  obtain ⟨y, rfl⟩ : ∃ y, year = y + 1 := ⟨year - 1, by omega⟩
  have leap : isLeap (y + 1) = true ↔ 4 ∣ y + 1 ∧ (¬ 100 ∣ y + 1 ∨ 400 ∣ y + 1) := by
    simp [isLeap, Nat.dvd_iff_mod_eq_zero]
  have century : 400 ∣ y + 1 → 100 ∣ y + 1 := (show 100 ∣ 400 by decide).trans
  have fourth : 100 ∣ y + 1 → 4 ∣ y + 1 := (show 4 ∣ 100 by decide).trans
  have more : y / 100 ≤ y / 4 := Nat.div_le_div_left (by decide) (by decide)
  simp only [daysBeforeYear, yearLength, leap, Nat.add_sub_cancel, Nat.succ_div]
  generalize y / 4 = a at more ⊢
  generalize y / 100 = b at more ⊢
  generalize y / 400 = c
  split_ifs <;> omega

/-- Four hundred years have 146097 days; up to the end of any year less than two days are missing
from its part of them. -/
theorem lt_daysBeforeYear (y : Nat) : 146097 * y < 400 * daysBeforeYear (y + 1) + 800 := by
  simp only [daysBeforeYear]
  omega

/-! ### The year of a day -/

theorem year_pos (d : Date) : 1 ≤ d.year := by
  unfold year
  simp only
  split
  · next early =>
    -- No day is before the first year, so the guess was a later one.
    by_contra none
    have first : (d.ordinal - 1) * 400 / 146097 = 0 := by omega
    rw [first] at early
    simp [daysBeforeYear] at early
  · split <;> omega

theorem year_le (d : Date) : d.year ≤ 9999 := by
  have last : d.ordinal ≤ 3652059 := d.last
  unfold year daysBeforeYear
  simp only
  split
  · omega
  · split <;> omega

theorem lt_nextYear (d : Date) : d.ordinal - 1 < daysBeforeYear (d.year + 1) := by
  unfold year
  simp only
  split
  · next early => exact early
  · split
    · have := lt_daysBeforeYear ((d.ordinal - 1) * 400 / 146097 + 1 + 1)
      omega
    · omega

/-! ### Month and day of the month -/

theorem monthOf_bounds {year : Nat} {months : List Nat} {n : Nat}
    (within : n < (months.map (monthLength year)).sum) :
    (monthOf year months n).1 ∈ months ∧
      (monthOf year months n).2 ≤ monthLength year (monthOf year months n).1 := by
  induction months generalizing n with
  | nil => exact absurd within (Nat.not_lt_zero n)
  | cons m rest ih =>
    rw [List.map_cons, List.sum_cons] at within
    rw [monthOf]
    split
    · next here => exact ⟨List.mem_cons_self, here⟩
    · obtain ⟨later, day⟩ := ih (n := n - monthLength year m) (by omega)
      exact ⟨List.mem_cons_of_mem m later, day⟩

theorem sum_monthLength (year : Nat) :
    ([1, 2, 3, 4, 5, 6, 7, 8, 9, 10, 11, 12].map (monthLength year)).sum = yearLength year := by
  simp only [List.map_cons, List.map_nil, monthLength, yearLength]
  split <;> rfl

theorem monthLength_le (year month : Nat) : monthLength year month ≤ 31 := by
  unfold monthLength
  split
  · split <;> decide
  all_goals decide

theorem monthDay_le (d : Date) : d.monthDay.1 ≤ 12 ∧ d.monthDay.2 ≤ 31 := by
  have within : d.ordinal - 1 - daysBeforeYear d.year < yearLength d.year := by
    have before := d.lt_nextYear
    rw [daysBeforeYear_succ d.year_pos] at before
    have some := yearLength_pos d.year
    omega
  rw [← sum_monthLength] at within
  obtain ⟨listed, day⟩ := monthOf_bounds within
  refine ⟨?_, day.trans (monthLength_le _ _)⟩
  have all : ∀ m ∈ [1, 2, 3, 4, 5, 6, 7, 8, 9, 10, 11, 12], m ≤ 12 := by decide
  exact all _ listed

/-- The text of a day has ten characters. -/
theorem length_iso (d : Date) : d.iso.toList.length = 10 := by
  obtain ⟨month, day⟩ := d.monthDay_le
  have year := Digits.length_padded (by decide) (d.year_le.trans_lt (by decide) : _ < 10 ^ 4)
  have month := Digits.length_padded (by decide) (month.trans_lt (by decide) : _ < 10 ^ 2)
  have day := Digits.length_padded (by decide) (day.trans_lt (by decide) : _ < 10 ^ 2)
  simp only [iso, String.toList_ofList, List.length_append, List.length_cons, year, month, day]

theorem take_iso (d : Date) : d.iso.toList.take 10 = d.iso.toList :=
  List.take_of_length_le d.length_iso.le

end Date

/-- The text of a moment begins with that of its day. -/
theorem Moment.take_iso (m : Moment) : m.iso.toList.take 10 = m.day.iso.toList := by
  rw [iso, text, String.toList_append, List.take_append_of_le_length m.day.length_iso.ge,
    m.day.take_iso]

end MetricDesk
