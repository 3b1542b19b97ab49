import Mathlib.Order.WithBotTop
import MetricDesk.Proofs.Cache.Run
import MetricDesk.Proofs.Number.Rounded

/-! Clocks that do not go back. Main statements: `Timeline.doubles`, the finite doubles are readings
of such a clock although spans between them are rounded; `alive_of_place_le`, on it an entry lives
until its span has passed exactly; and `live?_get`, looking something up changes nothing that will
live later on. -/
namespace MetricDesk

/-- The readings of a clock as points of time: they compare as the points do, and what has outlived
its span at one of them has done so at every later one. -/
structure Timeline (τ : Type) [Clock τ] where
  Reading : τ → Prop
  point : τ → ℚ
  lt_iff {s t : τ} : Reading s → Reading t → (Clock.lt s t = true ↔ point s < point t)
  ages {s t : τ} : Reading s → Reading t → point s ≤ point t → ∀ ttl created : τ,
    Clock.lt ttl (Clock.since s created) = true → Clock.lt ttl (Clock.since t created) = true

namespace Timeline

variable {τ α : Type} [Clock τ] (clock : Timeline τ)

/-- One reading is not later than another. -/
structure Before (s t : τ) : Prop where
  left : clock.Reading s
  right : clock.Reading t
  le : clock.point s ≤ clock.point t

variable {clock}

theorem Before.refl {t : τ} (reads : clock.Reading t) : clock.Before t t := ⟨reads, reads, le_rfl⟩

theorem Before.trans {r s t : τ} (first : clock.Before r s) (second : clock.Before s t) :
    clock.Before r t :=
  ⟨first.left, second.right, first.le.trans second.le⟩

theorem before_of_not_lt {s t : τ} (left : clock.Reading s) (right : clock.Reading t)
    (notBack : Clock.lt t s = false) : clock.Before s t := by
  refine ⟨left, right, not_lt.mp fun back => ?_⟩
  rw [(clock.lt_iff right left).mpr back] at notBack
  cases notBack

theorem Before.dead {s t : τ} (before : clock.Before s t) {e : Entry τ α}
    (dead : e.isExpired s = true) : e.isExpired t = true :=
  clock.ages before.left before.right before.le e.ttl e.created dead

theorem Before.alive {s t : τ} (before : clock.Before s t) {e : Entry τ α}
    (alive : e.isExpired t = false) : e.isExpired s = false := by
  rw [← Bool.not_eq_true] at alive ⊢
  exact fun dead => alive (before.dead dead)

end Timeline

/-! ### Doubles as readings -/

namespace Double

theorem isNan_ofRatio (s : Bool) (n d : Nat) : (ofRatio s n d).isNan = false := by
  unfold ofRatio pack
  split
  · rfl
  · simp only
    split
    · rfl
    · split <;> rfl

theorem isNan_sub {x y : Double} (finiteX : x.isFinite = true) (finiteY : y.isFinite = true) :
    (x.sub y).isNan = false := by
  cases x with
  | nan | infinite => cases finiteX
  | finite s m e _ => cases y with
    | nan | infinite => cases finiteY
    | finite t n f _ =>
      change (add (.finite s m e _) (.finite (!t) n f _)).isNan = false
      rw [add]
      split
      · rfl
      · unfold ofScaled
        split <;> exact isNan_ofRatio _ _ _

end Double

namespace Number

theorem int_lt_iff (k : Int) {x : Double} (number : x.isNan = false) :
    lt (.int k) (.dbl x) = true ↔ (((k : ℚ) : WithTop ℚ) : WithBot (WithTop ℚ)) < x.place := by
  cases x with
  | nan => cases number
  | infinite s =>
    cases s with
    | true => exact iff_of_false (by rintro ⟨⟩) not_lt_bot
    | false => exact iff_of_true rfl (WithBot.coe_lt_coe.mpr (WithTop.coe_lt_top _))
  | finite s m e h =>
    have positive : (0 : ℚ) < (Double.quotient m e).2 := by exact_mod_cast Double.quotient_pos m e
    have size := Double.quotient_size m e
    have exact :
        ((if s then -((Double.quotient m e).1 : Int) else (Double.quotient m e).1 : Int) : ℚ) =
        Double.signed s m e * (Double.quotient m e).2 := by
      rw [div_eq_iff positive.ne'] at size
      cases s <;> simp [Double.signed, size]
    change (some (compare (k * ((Double.quotient m e).2 : Int))
      (if s then -((Double.quotient m e).1 : Int) else (Double.quotient m e).1)) ==
        some Ordering.lt) = true ↔ _
    rw [beq_iff_eq, Option.some.injEq, compare_lt_iff_lt, ← Int.cast_lt (R := ℚ), exact,
      Int.cast_mul, Int.cast_natCast, mul_lt_mul_iff_left₀ positive, Double.place,
      WithBot.coe_lt_coe, WithTop.coe_lt_coe]

/-- What is below one double is below every greater one. -/
theorem lt_of_place_le {n : Number} {x y : Double} (number : y.isNan = false)
    (le : x.place ≤ y.place) (less : n.lt (.dbl x) = true) : n.lt (.dbl y) = true := by
  have numberX : x.isNan = false := by
    cases x with
    | nan => cases n with
      | int k => cases less
      | dbl z => cases z <;> cases less
    | infinite | finite => rfl
  cases n with
  | int k => exact (int_lt_iff k number).mpr (((int_lt_iff k numberX).mp less).trans_le le)
  | dbl z =>
    have numberZ : z.isNan = false := by
      cases z with
      | nan => cases less
      | infinite | finite => rfl
    change z.lt x = true at less
    change z.lt y = true
    rw [Double.lt_iff_place numberZ numberX] at less
    exact (Double.lt_iff_place numberZ number).mpr (less.trans_le le)

/-- A span from any reading to doubles is a difference of doubles, if there is any. -/
theorem since_cases (created : Number) :
    (∀ x : Double, Clock.since (.dbl x) created = .int 0) ∨
      ∃ y : Double, ∀ x : Double, Clock.since (.dbl x) created = .dbl (x.sub y) := by
  cases created with
  | dbl y => exact Or.inr ⟨y, fun _ => rfl⟩
  | int k =>
    by_cases finite : (Double.ofInt k).isFinite = true
    · refine Or.inr ⟨.ofInt k, fun x => ?_⟩
      simp [Clock.since, sub, combine, toDouble, finite, Except.toOption, bind, Except.bind]
    · refine Or.inl fun x => ?_
      simp [Clock.since, sub, combine, toDouble, finite, Except.toOption, bind, Except.bind]

/-- Spans to later doubles are not shorter. -/
theorem lt_since_mono {x z : Double} (finiteX : x.isFinite = true) (finiteZ : z.isFinite = true)
    (le : x.value ≤ z.value) (ttl created : Number)
    (less : lt ttl (Clock.since (.dbl x) created) = true) :
    lt ttl (Clock.since (.dbl z) created) = true := by
  rcases since_cases created with none | ⟨y, spans⟩
  · rwa [none] at less ⊢
  · rw [spans] at less ⊢
    by_cases finiteY : y.isFinite = true
    · apply lt_of_place_le (Double.isNan_sub finiteZ finiteY) _ less
      rw [Double.place_sub finiteX finiteY, Double.place_sub finiteZ finiteY]
      exact Double.place_rounded_mono (sub_le_sub_right le _)
    · have same : x.sub y = z.sub y := by
        cases x with
        | nan | infinite => cases finiteX
        | finite => cases z with
          | nan | infinite => cases finiteZ
          | finite => cases y with
            | finite => exact absurd rfl finiteY
            | nan | infinite => rfl
      rwa [same] at less

/-- What a number stands for, if it is finite. -/
def exact : Number → ℚ
  | .int n => n
  | .dbl x => x.value

end Number

/-- Finite doubles as readings. -/
def Timeline.doubles : Timeline Number where
  Reading t := ∃ x : Double, t = .dbl x ∧ x.isFinite = true
  point := Number.exact
  lt_iff := by
    rintro _ _ ⟨x, rfl, finiteX⟩ ⟨y, rfl, finiteY⟩
    change x.lt y = true ↔ _
    rw [Double.lt_iff_place (Double.isNan_of_isFinite finiteX) (Double.isNan_of_isFinite finiteY),
      Double.place_of_isFinite finiteX, Double.place_of_isFinite finiteY, WithBot.coe_lt_coe,
      WithTop.coe_lt_coe]
    rfl
  ages := by
    rintro _ _ ⟨x, rfl, finiteX⟩ ⟨z, rfl, finiteZ⟩ le ttl created dead
    exact Number.lt_since_mono finiteX finiteZ le ttl created dead

/-- An entry lives until its span has passed exactly, however the span since is rounded. -/
theorem Timeline.alive_of_place_le {α : Type} {ttl : Double} {e : Entry Number α} {now : Number}
    (spans : e.ttl = .dbl ttl) (created : doubles.Reading e.created) (reads : doubles.Reading now)
    (within : ((now.exact - e.created.exact : ℚ) : WithBot (WithTop ℚ)) ≤ ttl.place) :
    e.isExpired now = false := by
  obtain ⟨value, _, _⟩ := e
  obtain ⟨y, rfl, finiteY⟩ := created
  obtain ⟨x, rfl, finiteX⟩ := reads
  obtain rfl := spans
  rw [← Bool.not_eq_true]
  intro dead
  change ttl.lt (x.sub y) = true at dead
  have number : ttl.isNan = false := by
    cases ttl with
    | nan => cases dead
    | infinite | finite => rfl
  rw [Double.lt_iff_place number (Double.isNan_sub finiteX finiteY),
    Double.place_sub finiteX finiteY] at dead
  change ((x.value - y.value : ℚ) : WithBot (WithTop ℚ)) ≤ ttl.place at within
  cases ttl with
  | nan => cases number
  | infinite s =>
    cases s with
    | true => exact absurd (le_bot_iff.mp within) WithBot.coe_ne_bot
    | false => exact not_top_lt dead
  | finite s m f h =>
    rw [← Double.place_rounded_value (x := .finite s m f h) rfl] at dead
    have exactly : x.value - y.value ≤ Double.signed s m f :=
      WithTop.coe_le_coe.mp (WithBot.coe_le_coe.mp within)
    exact absurd dead (not_lt.mpr (Double.place_rounded_mono exactly))

/-! ### Live entries -/

namespace Cache

variable {τ α : Type} [Clock τ] {clock : Timeline τ}

theorem live?_of_dead {c : Cache τ α} {t now : τ} (before : clock.Before t now) (key : String) :
    Option.filter (!·.isExpired now) (c.live? t key) = c.live? now key := by
  unfold live?
  cases c.entry? key with
  | none => rfl
  | some e =>
    cases dead : e.isExpired t with
    | false => simp [Option.filter, dead]
    | true => simp [Option.filter, dead, before.dead dead]

/-- A look-up changes nothing that will live later on. -/
theorem live?_get (c : Cache τ α) {t now : τ} (before : clock.Before t now) (key k : String) :
    (c.get t key).2.live? now k = c.live? now k := by
  rw [live?, (c.get_live t key).2 k]
  split
  · exact live?_of_dead before k
  · rfl

/-- A set puts in its value, and of the others loses one at most, if the cache is full. -/
theorem live?_set (c : Cache τ α) (t : τ) (key : String) (value : α) (ttl : Option τ) :
    ∃ lost : Option String,
      Cache.entry? (c.set t key value ttl) key = some ⟨value, t, ttl.getD c.defaultTtl⟩ ∧
      (∀ now k, k ≠ key → (c.set t key value ttl).live? now k =
        if lost = some k then none else c.live? now k) ∧
      (lost ≠ none → c.maxSize ≤ c.size) := by
  obtain ⟨lost, stands, only⟩ := c.entry?_set t key value ttl
  refine ⟨lost, by rw [stands, if_pos rfl], fun now k other => ?_, fun some => (only some).2⟩
  rw [live?, stands, if_neg other]
  split
  · rfl
  · rfl

end Cache
end MetricDesk
