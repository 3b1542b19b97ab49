import Mathlib.Data.Finset.Union
import Mathlib.Order.Interval.Finset.Nat
import MetricDesk.Proofs.Calendar.Window
import MetricDesk.Proofs.Plan.Validity

/-! Windows laid end to end, back from one of them. Main statements: `exists_backward_iff`, the
windows before a window are there as long as the calendar has their days; `tiling_of_backward`, they
tile the days up to its end; and `backward_tiles`, which adds that every valid plan has its window
and the one before. -/
namespace MetricDesk.Window

/-- A window and so many before it, each of them just before the one listed ahead of it. -/
def backward : Nat → Window → Except CalendarFault (List Window)
  | 0, w => .ok [w]
  | k + 1, w => do
    let v ← w.preceding
    return w :: (← backward k v)

/-- The numbers of a window's days. -/
def ordinals (w : Window) : Finset Nat := Finset.Icc w.start.ordinal w.stop.ordinal

/-- A window and `k` before it, all of one length and with nothing between them. -/
structure Tiling (w : Window) (k : Nat) (ws : List Window) : Prop where
  first : ws.head? = some w
  count : ws.length = k + 1
  days : ∀ v ∈ ws, v.days = w.days
  next : ws.IsChain fun later v => v.stop.ordinal + 1 = later.start.ordinal
  apart : ws.Pairwise fun later v => Disjoint later.ordinals v.ordinals
  /-- Their days are the last `(k + 1) * w.days` up to the end of the first. -/
  cover : ws.toFinset.biUnion ordinals =
    Finset.Ioc (w.stop.ordinal - (k + 1) * w.days.toNat) w.stop.ordinal
  size : ((ws.toFinset.biUnion ordinals).card : Int) = (k + 1) * w.days

variable {w v : Window} {n k : Nat} {ws : List Window}

theorem mem_ordinals {d : Nat} : d ∈ w.ordinals ↔ w.start.ordinal ≤ d ∧ d ≤ w.stop.ordinal :=
  Finset.mem_Icc

theorem IsBefore.days (h : v.IsBefore n w) : v.days = n := by
  have := h.stop
  have := h.start
  rw [Window.days]
  omega

/-- What comes back starts with the window that it goes back from. -/
theorem exists_cons_of_backward (h : backward k w = .ok ws) : ∃ others, ws = w :: others := by
  cases k with
  | zero =>
    cases h
    exact ⟨[], rfl⟩
  | succ k =>
    obtain ⟨v, -, h⟩ := exists_of_bind h
    obtain ⟨others, -, h⟩ := exists_of_bind h
    cases h
    exact ⟨others, rfl⟩

/-- One window further back. -/
theorem backward_succ_iff (length : w.days = n) :
    backward (k + 1) w = .ok ws ↔
      ∃ v others, v.IsBefore n w ∧ backward k v = .ok others ∧ ws = w :: others := by
  constructor
  · intro h
    obtain ⟨v, before, h⟩ := exists_of_bind h
    obtain ⟨others, back, h⟩ := exists_of_bind h
    cases h
    exact ⟨v, others, (preceding_eq_ok_iff length).mp before, back, rfl⟩
  · rintro ⟨v, others, before, back, rfl⟩
    rw [backward, (preceding_eq_ok_iff length).mpr before]
    change backward k v >>= _ = _
    rw [back]
    rfl

/-- By induction on how far back: each window takes as many days as the one after it. -/
theorem exists_backward_iff (some : 1 ≤ n) (length : w.days = n) :
    (∃ ws, backward k w = .ok ws) ↔ k * n < w.start.ordinal := by
  induction k generalizing w with
  | zero =>
    have := w.start.first
    exact iff_of_true ⟨[w], rfl⟩ (by omega)
  | succ k ih =>
    simp only [backward_succ_iff length, Nat.succ_mul]
    constructor
    · rintro ⟨-, v, others, before, back, -⟩
      have room := (ih before.days).mp ⟨others, back⟩
      have := before.start
      omega
    · intro room
      have inside : n < w.start.ordinal := by omega
      have := w.start.last
      let stop : Date := ⟨w.start.ordinal - 1, by omega, by omega⟩
      let start : Date := ⟨w.start.ordinal - n, by omega, by omega⟩
      have before : IsBefore ⟨start, stop⟩ n w := by
        constructor
        · simp only [stop]
          omega
        · simp only [start]
          omega
      have further : k * n < start.ordinal := by
        simp only [start]
        omega
      obtain ⟨others, back⟩ := (ih before.days).mpr further
      exact ⟨w :: others, ⟨start, stop⟩, others, before, back, rfl⟩

/-! ### Tilings -/

/-- The days of the windows are those up to the end of the first. -/
theorem mem_backward_iff (some : 1 ≤ n) (length : w.days = n) (h : backward k w = .ok ws)
    (d : Nat) : (∃ v ∈ ws, d ∈ v.ordinals) ↔
      w.stop.ordinal < d + (k + 1) * n ∧ d ≤ w.stop.ordinal := by
  induction k generalizing w ws with
  | zero =>
    cases h
    rw [Window.days] at length
    simp only [List.mem_singleton, exists_eq_left, mem_ordinals]
    omega
  | succ k ih =>
    obtain ⟨v, others, before, back, rfl⟩ := (backward_succ_iff length).mp h
    have := before.stop
    have := before.start
    rw [Window.days] at length
    simp only [List.mem_cons, exists_eq_or_imp]
    rw [ih before.days back, mem_ordinals, Nat.succ_mul (k + 1)]
    omega

theorem cover_of_backward (some : 1 ≤ n) (length : w.days = n) (h : backward k w = .ok ws) :
    ws.toFinset.biUnion ordinals =
        Finset.Ioc (w.stop.ordinal - (k + 1) * w.days.toNat) w.stop.ordinal ∧
      ((ws.toFinset.biUnion ordinals).card : Int) = (k + 1) * w.days := by
  have room : k * n < w.start.ordinal := (exists_backward_iff some length).mp ⟨ws, h⟩
  have grown : (k + 1) * n = k * n + n := Nat.succ_mul k n
  have last : w.start.ordinal + n = w.stop.ordinal + 1 := by
    rw [Window.days] at length
    omega
  have cover : ws.toFinset.biUnion ordinals =
      Finset.Ioc (w.stop.ordinal - (k + 1) * n) w.stop.ordinal := by
    ext d
    simp only [Finset.mem_biUnion, List.mem_toFinset, Finset.mem_Ioc]
    rw [mem_backward_iff some length h]
    omega
  have whole : (k + 1) * n ≤ w.stop.ordinal := by omega
  rw [cover, length, Int.toNat_natCast, Nat.card_Ioc, Nat.sub_sub_self whole]
  exact ⟨rfl, by push_cast; rfl⟩

/-- The windows that come back are a tiling, by induction on how far back they go. -/
theorem tiling_of_backward (some : 1 ≤ n) (length : w.days = n) (h : backward k w = .ok ws) :
    Tiling w k ws := by
  obtain ⟨cover, size⟩ := cover_of_backward some length h
  induction k generalizing w ws with
  | zero =>
    cases h
    exact ⟨rfl, rfl, List.forall_mem_singleton.mpr rfl, .singleton w, List.pairwise_singleton _ w,
      cover, size⟩
  | succ k ih =>
    obtain ⟨v, others, before, back, rfl⟩ := (backward_succ_iff length).mp h
    obtain ⟨coverBefore, sizeBefore⟩ := cover_of_backward some before.days back
    have rest := ih before.days back coverBefore sizeBefore
    obtain ⟨more, rfl⟩ := exists_cons_of_backward back
    have equal : v.days = w.days := before.days.trans length.symm
    refine ⟨rfl, congrArg (· + 1) rest.count, ?_, ?_, ?_, cover, size⟩
    · rw [List.forall_mem_cons]
      exact ⟨rfl, fun u mem => (rest.days u mem).trans equal⟩
    · exact .cons_cons before.stop rest.next
    · refine List.pairwise_cons.mpr ⟨fun u mem => ?_, rest.apart⟩
      -- The days of all earlier windows end before this one starts.
      rw [Finset.disjoint_left]
      intro d here there
      have bound := (mem_backward_iff some before.days back d).mp ⟨u, mem, there⟩
      have := mem_ordinals.mp here
      have := before.stop
      omega

/-- Windows tile the calendar. Those before a window are there as long as the calendar has their
days, and then they are of its length, without gap or overlap. A valid plan has its window and the
one before on every day that leaves room for the longest two. -/
theorem backward_tiles :
    (∀ (w : Window) (k : Nat), w.start.ordinal ≤ w.stop.ordinal →
      ((∃ ws, backward k w = .ok ws) ↔ k * w.days < w.start.ordinal) ∧
        ∀ ws, backward k w = .ok ws → Tiling w k ws) ∧
    ∀ (candidate : Value) (plan : Plan) (today : Date), Plan.validate candidate = .ok plan →
      7300 ≤ today.ordinal → ∃ w v, lastDays plan.days today = .ok w ∧ w.preceding = .ok v ∧
        w.days = plan.days ∧ v.days = plan.days ∧ w.stop = today ∧
        v.stop.ordinal + plan.days = today.ordinal := by
  constructor
  · intro w k ordered
    obtain ⟨n, length⟩ : ∃ n : Nat, w.days = n := by
      refine Int.eq_ofNat_of_zero_le ?_
      rw [Window.days]
      omega
    have some : 1 ≤ n := by
      rw [Window.days] at length
      omega
    refine ⟨?_, fun ws back => tiling_of_backward some length back⟩
    rw [exists_backward_iff some length, length]
    exact_mod_cast Iff.rfl
  · intro candidate plan today validated late
    have valid := Plan.valid_of_validate validated
    have positive := valid.positive
    have limited := valid.limited
    have : maxWindowDays = 3650 := rfl
    obtain ⟨w, last⟩ := exists_isLast positive (by omega : plan.days ≤ today.ordinal)
    obtain ⟨v, before⟩ := exists_isBefore positive last (by omega)
    have := last.start
    have := before.stop
    refine ⟨w, v, lastDays_eq_ok_iff.mpr last, (preceding_eq_ok_iff last.days).mpr before,
      last.days, before.days, last.stop, ?_⟩
    omega

/-- The second seven days of the calendar. -/
def secondWeek : Window := ⟨⟨8, by decide, by decide⟩, ⟨14, by decide, by decide⟩⟩

/-- Users over the longest window. -/
def longestUsers : Plan := ⟨"all", .dau, .day, maxWindowDays, [], .none, [], [], .short⟩

/-- The first day that leaves room for the longest window and the one before. -/
def lastOfBoth : Date := ⟨2 * maxWindowDays, by decide, by decide⟩

/-- There is one week before the second, and no other before that. The window before the longest one
may start on the first day of the calendar. -/
theorem secondWeek_tiles : secondWeek.start.ordinal ≤ secondWeek.stop.ordinal ∧
    (∃ ws, backward 1 secondWeek = .ok ws ∧ Tiling secondWeek 1 ws) ∧
    (¬ ∃ ws, backward 2 secondWeek = .ok ws) ∧
    Plan.validate longestUsers.toValue = .ok longestUsers ∧ 7300 ≤ lastOfBoth.ordinal ∧
    ∃ w v, lastDays longestUsers.days lastOfBoth = .ok w ∧ w.preceding = .ok v ∧ v.days = 3650 ∧
      v.stop.ordinal + 3650 = 7300 := by
  have ordered : secondWeek.start.ordinal ≤ secondWeek.stop.ordinal := by decide
  have validated : Plan.validate longestUsers.toValue = .ok longestUsers := by rfl
  have late : 7300 ≤ lastOfBoth.ordinal := Nat.le_refl _
  obtain ⟨one, tiled⟩ := backward_tiles.1 secondWeek 1 ordered
  obtain ⟨two, -⟩ := backward_tiles.1 secondWeek 2 ordered
  obtain ⟨ws, back⟩ := one.mpr (by decide)
  have none : ¬ ∃ ws, backward 2 secondWeek = .ok ws := fun there =>
    absurd (two.mp there) (by decide)
  obtain ⟨w, v, last, before, -, days, -, stop⟩ :=
    backward_tiles.2 longestUsers.toValue longestUsers lastOfBoth validated late
  exact ⟨ordered, ⟨ws, back, tiled ws back⟩, none, validated, late, w, v, last, before, days, stop⟩

end MetricDesk.Window
