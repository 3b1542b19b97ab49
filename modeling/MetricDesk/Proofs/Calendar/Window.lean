import MetricDesk.Calendar.Window
import MetricDesk.Proofs.Failure

/-! Windows by the numbers of their days. Main statements: `lastDays_eq_ok_iff` and
`preceding_eq_ok_iff`, which windows are the last days up to a day and the days just before a
window; `exists_isLast` and `exists_isBefore`, they are there as long as the calendar has the days. -/
namespace MetricDesk

namespace Date

theorem shift_eq_ok_iff {d e : Date} {days : Int} :
    d.shift days = .ok e ↔ (e.ordinal : Int) = d.ordinal + days := by
  have first := e.first
  have last := e.last
  unfold shift ofOrdinal?
  split
  · next found =>
    split at found
    · cases found
      rw [Except.ok.injEq, Date.mk.injEq]
      omega
    · cases found
  · next missing =>
    split at missing
    · cases missing
    · exact iff_of_false (by rintro ⟨⟩) (by omega)

theorem span_of_le {days : Int} (small : days.natAbs ≤ count) : span days = .ok days := by
  have : count = 3652059 := rfl
  unfold span
  have bound : Int.pow 2 31 = 2147483648 := rfl
  rw [if_neg (by omega), if_pos (by omega)]

theorem eq_of_span {days span : Int} (h : Date.span days = .ok span) : span = days := by
  unfold Date.span at h
  split at h
  · cases h
  · split at h
    · exact (Except.ok.inj h).symm
    · cases h

end Date

namespace Window

/-- The last `n` days up to a day. -/
structure IsLast (n : Nat) (today : Date) (w : Window) : Prop where
  stop : w.stop = today
  start : w.start.ordinal + n = today.ordinal + 1

/-- The `n` days just before a window. -/
structure IsBefore (w : Window) (n : Nat) (next : Window) : Prop where
  stop : w.stop.ordinal + 1 = next.start.ordinal
  start : w.start.ordinal + n = next.start.ordinal

variable {n : Nat} {today : Date} {w v : Window}

theorem IsLast.days (h : w.IsLast n today) : w.days = n := by
  have := h.start
  rw [Window.days, h.stop]
  omega

theorem lastDays_eq_ok_iff : lastDays n today = .ok w ↔ w.IsLast n today := by
  constructor
  · intro made
    obtain ⟨span, spanned, made⟩ := exists_of_bind made
    obtain ⟨start, moved, made⟩ := exists_of_bind made
    cases made
    obtain rfl := Date.eq_of_span spanned
    have := Date.shift_eq_ok_iff.mp moved
    refine ⟨rfl, ?_⟩
    dsimp only
    omega
  · intro h
    have spanned : Date.span ((n : Int) - 1) = .ok ((n : Int) - 1) := by
      apply Date.span_of_le
      have := h.start
      have := w.start.first
      have := today.last
      have : Date.count = 3652059 := rfl
      omega
    have moved : today.shift (-((n : Int) - 1)) = .ok w.start := by
      rw [Date.shift_eq_ok_iff]
      have := h.start
      omega
    unfold lastDays
    rw [spanned]
    change today.shift (-((n : Int) - 1)) >>= _ = _
    rw [moved, ← h.stop]
    rfl

theorem preceding_eq_ok_iff (length : w.days = n) : w.preceding = .ok v ↔ v.IsBefore n w := by
  unfold preceding
  rw [length]
  constructor
  · intro made
    obtain ⟨stop, ended, made⟩ := exists_of_bind made
    obtain ⟨start, moved, made⟩ := exists_of_bind made
    cases made
    have := Date.shift_eq_ok_iff.mp ended
    have := Date.shift_eq_ok_iff.mp moved
    constructor
    · dsimp only
      omega
    · dsimp only
      omega
  · intro h
    have stop := h.stop
    have start := h.start
    have ended : w.start.shift (-1) = .ok v.stop := Date.shift_eq_ok_iff.mpr (by omega)
    have moved : v.stop.shift (-((n : Int) - 1)) = .ok v.start :=
      Date.shift_eq_ok_iff.mpr (by omega)
    rw [ended]
    change v.stop.shift (-((n : Int) - 1)) >>= _ = _
    rw [moved]
    rfl

theorem exists_isLast (some : 1 ≤ n) (room : n ≤ today.ordinal) :
    ∃ w : Window, w.IsLast n today := by
  have := today.last
  refine ⟨⟨⟨today.ordinal + 1 - n, by omega, by omega⟩, today⟩, rfl, ?_⟩
  dsimp only
  omega

theorem exists_isBefore (some : 1 ≤ n) (last : w.IsLast n today)
    (room : 2 * n ≤ today.ordinal) : ∃ v : Window, v.IsBefore n w := by
  have := last.start
  have := w.start.last
  refine ⟨⟨⟨w.start.ordinal - n, by omega, by omega⟩, ⟨w.start.ordinal - 1, by omega, by omega⟩⟩,
    ?_, ?_⟩
  · dsimp only
    omega
  · dsimp only
    omega

end Window
end MetricDesk
