import Mathlib.Algebra.Order.Ring.Rat
import MetricDesk.Proofs.Cache.Lookup

/-! Runs of a cache, beside a history of what was done to it. Main statements: `step_sound`, whatever
is done the cache stays in accord with its history; `run_sound`, so it is after every run from an
empty cache; and `run_specified`, on a clock of exact numbers, what every operation does after every
run. -/
namespace MetricDesk

/-- Readings and spans as exact numbers. -/
instance : Clock ℚ where
  since now created := now - created
  lt x y := decide (x < y)

theorem Entry.isExpired_iff {α : Type} (e : Entry ℚ α) (now : ℚ) :
    e.isExpired now = true ↔ e.ttl < now - e.created :=
  decide_eq_true_iff

namespace Cache

/-- What can be done to a cache, and a move of its clock to another reading. -/
inductive Act (τ α : Type) where
  | set (key : String) (value : α) (ttl : Option τ)
  | get (key : String)
  | sweep
  | clear
  | move (now : τ)

/-- What was done to a cache, a look-up with what it answered. -/
inductive Event (τ α : Type) where
  | stored (key : String) (entry : Entry τ α)
  | asked (key : String) (answer : Option α)
  | swept
  | cleared

namespace Event

variable {τ α : Type}

/-- It ends what was stored under a key: something else is stored there, or everything is dropped. -/
def Ends (key : String) : Event τ α → Prop
  | .stored k _ => k = key
  | .cleared => True
  | .asked .. | .swept => False

def isAsked : Event τ α → Bool
  | .asked .. => true
  | _ => false

/-- A look-up that was answered with a value. -/
def isAnswered : Event τ α → Bool
  | .asked _ answer => answer.isSome
  | _ => false

end Event

/-- A cache, the reading of its clock, and what was done to it, the latest first. -/
structure Run (τ α : Type) where
  cache : Cache τ α
  now : τ
  history : List (Event τ α)

namespace Run

variable {τ α : Type}

def start (defaultTtl : τ) (maxSize : Int) (now : τ) : Run τ α := ⟨.empty defaultTtl maxSize, now, []⟩

/-- The entry is that of the latest set of the key, and nothing was dropped wholesale since. -/
def Latest (r : Run τ α) (key : String) (e : Entry τ α) : Prop :=
  ∃ later earlier, r.history = later ++ .stored key e :: earlier ∧ ∀ x ∈ later, ¬ x.Ends key

/-- What a cache has to do with its history. -/
structure Sound (r : Run τ α) : Prop where
  once : r.cache.keys.Nodup
  within : r.cache.size ≤ r.cache.maxSize
  latest : ∀ key e, r.cache.entry? key = some e → r.Latest key e
  asked : r.cache.hits + r.cache.misses = r.history.countP Event.isAsked
  answered : r.cache.hits = r.history.countP Event.isAnswered

variable [Clock τ]

def step (r : Run τ α) : Act τ α → Run τ α
  | .set key value ttl =>
    { r with
      cache := r.cache.set r.now key value ttl
      history := .stored key ⟨value, r.now, ttl.getD r.cache.defaultTtl⟩ :: r.history }
  | .get key =>
    let (answer, cache) := r.cache.get r.now key
    { r with cache, history := .asked key answer :: r.history }
  | .sweep => { r with cache := (r.cache.sweep r.now).2, history := .swept :: r.history }
  | .clear => { r with cache := r.cache.clear.2, history := .cleared :: r.history }
  | .move now => { r with now }

def steps (r : Run τ α) (acts : List (Act τ α)) : Run τ α := acts.foldl step r

/-! ### What a step keeps -/

omit [Clock τ] in
/-- What does not end an entry leaves it the latest. -/
theorem Latest.later {r s : Run τ α} {key : String} {e : Entry τ α} {x : Event τ α}
    (h : r.Latest key e) (record : s.history = x :: r.history) (lasts : ¬ x.Ends key) :
    s.Latest key e := by
  obtain ⟨later, earlier, split, others⟩ := h
  refine ⟨x :: later, earlier, by rw [record, split, List.cons_append], ?_⟩
  exact List.forall_mem_cons.mpr ⟨lasts, others⟩

theorem maxSize_step (r : Run τ α) (act : Act τ α) :
    (r.step act).cache.maxSize = r.cache.maxSize := by
  cases act with
  | set key value ttl => exact (roomFor_kept r.cache key).1
  | get key => exact (size_get_le r.cache r.now key).2
  | sweep | clear | move now => rfl

theorem sound_set {r : Run τ α} (h : r.Sound) (room : 1 ≤ r.cache.maxSize) (key : String)
    (value : α) (ttl : Option τ) : (r.step (.set key value ttl)).Sound := by
  obtain ⟨maxSize, hits, misses⟩ := roomFor_kept r.cache key
  refine ⟨nodup_set h.once r.now key value ttl, ?_, ?_, ?_, ?_⟩
  · rw [maxSize_step]
    exact size_set_le room h.within r.now key value ttl
  · intro k e found
    obtain ⟨lost, stands, -⟩ := r.cache.entry?_set r.now key value ttl
    have found := (stands k).symm.trans found
    by_cases here : k = key
    · subst here
      rw [if_pos rfl, Option.some.injEq] at found
      exact ⟨[], r.history, by rw [← found]; rfl, by simp⟩
    · rw [if_neg here] at found
      by_cases gone : lost = some k
      · rw [if_pos gone] at found
        cases found
      · rw [if_neg gone] at found
        exact (h.latest k e found).later rfl (Ne.symm here)
  · have counts : (r.cache.roomFor key).hits + (r.cache.roomFor key).misses =
        r.history.countP Event.isAsked := by rw [hits, misses, h.asked]
    simpa [step, set_eq, Event.isAsked] using counts
  · simpa [step, set_eq, Event.isAnswered] using hits.trans h.answered

theorem sound_get {r : Run τ α} (h : r.Sound) (key : String) : (r.step (.get key)).Sound := by
  obtain ⟨fewer, maxSize⟩ := size_get_le r.cache r.now key
  obtain ⟨hits, all⟩ := get_counts r.cache r.now key
  refine ⟨nodup_get h.once r.now key, ?_, ?_, ?_, ?_⟩
  · rw [maxSize_step]
    exact le_trans (Int.ofNat_le.mpr fewer) h.within
  · intro k e found
    have found := ((r.cache.get_live r.now key).2 k).symm.trans found
    have before : r.cache.entry? k = some e := by
      by_cases here : k = key
      · rw [if_pos here] at found
        exact (live?_eq_some.mp found).1
      · rwa [if_neg here] at found
    exact (h.latest k e before).later rfl id
  · rw [h.asked] at all
    simpa [step, List.countP_cons, Event.isAsked] using all
  · rw [h.answered] at hits
    cases answer : (r.cache.get r.now key).1 with
    | none => simpa [step, List.countP_cons, Event.isAnswered, answer] using hits
    | some value => simpa [step, List.countP_cons, Event.isAnswered, answer] using hits

theorem sound_sweep {r : Run τ α} (h : r.Sound) : (r.step .sweep).Sound := by
  refine ⟨h.once.sublist (List.filter_sublist.map _), ?_, ?_, ?_, ?_⟩
  · have fewer : (r.cache.sweep r.now).2.size ≤ r.cache.size := List.length_filter_le _ _
    exact le_trans (Int.ofNat_le.mpr fewer) h.within
  · intro k e found
    have live := (entry?_sweep h.once r.now k).symm.trans found
    exact (h.latest k e (live?_eq_some.mp live).1).later rfl id
  · simpa [step, sweep, Event.isAsked] using h.asked
  · simpa [step, sweep, Event.isAnswered] using h.answered

theorem sound_clear {r : Run τ α} (h : r.Sound) : (r.step .clear).Sound := by
  refine ⟨List.nodup_nil, ?_, ?_, ?_, ?_⟩
  · exact le_trans (Int.natCast_nonneg r.cache.size) h.within
  · intro k e found
    cases found
  · simpa [step, clear, Event.isAsked] using h.asked
  · simpa [step, clear, Event.isAnswered] using h.answered

/-- Whatever is done to a cache that has room for one entry, it stays in accord with its history. -/
theorem step_sound {r : Run τ α} (h : r.Sound) (room : 1 ≤ r.cache.maxSize) (act : Act τ α) :
    (r.step act).Sound := by
  cases act with
  | set key value ttl => exact sound_set h room key value ttl
  | get key => exact sound_get h key
  | sweep => exact sound_sweep h
  | clear => exact sound_clear h
  | move now => exact ⟨h.once, h.within, h.latest, h.asked, h.answered⟩

theorem steps_sound {r : Run τ α} (h : r.Sound) (room : 1 ≤ r.cache.maxSize)
    (acts : List (Act τ α)) :
    (r.steps acts).Sound ∧ (r.steps acts).cache.maxSize = r.cache.maxSize := by
  induction acts generalizing r with
  | nil => exact ⟨h, rfl⟩
  | cons act rest ih =>
    have kept := maxSize_step r act
    obtain ⟨sound, same⟩ := ih (step_sound h room act) (by rwa [kept])
    exact ⟨sound, same.trans kept⟩

omit [Clock τ] in
theorem start_sound (defaultTtl now : τ) {maxSize : Int} (room : 1 ≤ maxSize) :
    (start (α := α) defaultTtl maxSize now).Sound := by
  refine ⟨List.nodup_nil, ?_, ?_, rfl, rfl⟩
  · exact le_trans Int.one_nonneg room
  · intro key e found
    cases found

/-- After every run from an empty cache it is in accord with its history, and its size the one that
it was given. -/
theorem run_sound (defaultTtl now : τ) {maxSize : Int} (room : 1 ≤ maxSize)
    (acts : List (Act τ α)) :
    ((start defaultTtl maxSize now).steps acts).Sound ∧
      ((start defaultTtl maxSize now).steps acts).cache.maxSize = maxSize :=
  steps_sound (start_sound defaultTtl now room) room acts

/-! ### What the operations do -/

/-- What every operation does to a cache that has a history. -/
structure Specified (r : Run τ α) : Prop where
  /-- No more entries than there is room for, each under a key of its own. -/
  within : r.cache.size ≤ r.cache.maxSize
  once : r.cache.keys.Nodup
  /-- A look-up answers with the value of the latest set of the key since the latest clear, if that
  lives. -/
  latest : ∀ key value, (r.cache.get r.now key).1 = some value →
    ∃ e, r.Latest key e ∧ e.value = value ∧ e.isExpired r.now = false
  /-- A set puts in its value, and loses one other entry at most, for a new key in a full cache. -/
  stored : ∀ key value ttl, ∃ lost : Option String,
    (∀ k, Cache.entry? (r.cache.set r.now key value ttl) k =
      if k = key then some ⟨value, r.now, ttl.getD r.cache.defaultTtl⟩
      else if lost = some k then none else r.cache.entry? k) ∧
    (lost ≠ none → r.cache.entry? key = none ∧ r.cache.size = r.cache.maxSize)
  /-- A look-up answers with what lives under the key, and drops only what does not. -/
  asked : ∀ key, (r.cache.get r.now key).1 = (r.cache.live? r.now key).map (·.value) ∧
    ∀ k, Cache.entry? (r.cache.get r.now key).2 k =
      if k = key then r.cache.live? r.now k else r.cache.entry? k
  /-- A sweep leaves what lives, and counts the rest. -/
  swept : (∀ k, Cache.entry? (r.cache.sweep r.now).2 k = r.cache.live? r.now k) ∧
    (r.cache.sweep r.now).1 =
      (r.cache.keys.filter fun k => Option.any (·.isExpired r.now) <| r.cache.entry? k).length
  /-- Every look-up is counted, as a hit if it was answered. -/
  counted : r.cache.hits + r.cache.misses = r.history.countP Event.isAsked ∧
    r.cache.hits = r.history.countP Event.isAnswered

theorem Sound.specified {r : Run τ α} (h : r.Sound) : r.Specified where
  within := h.within
  once := h.once
  latest := by
    intro key value answered
    have live := (r.cache.get_live r.now key).1.symm.trans answered
    obtain ⟨e, found, same⟩ := Option.map_eq_some_iff.mp live
    obtain ⟨there, lives⟩ := live?_eq_some.mp found
    exact ⟨e, h.latest key e there, same, lives⟩
  stored := by
    intro key value ttl
    obtain ⟨lost, stands, only⟩ := r.cache.entry?_set r.now key value ttl
    refine ⟨lost, stands, ?_⟩
    intro loses
    obtain ⟨absent, full⟩ := only loses
    exact ⟨absent, le_antisymm h.within full⟩
  asked key := r.cache.get_live r.now key
  swept := ⟨entry?_sweep h.once r.now, sweep_count h.once r.now⟩
  counted := ⟨h.asked, h.answered⟩

/-- A cache after any run, its clock and spans exact numbers: it stays within its size, every
operation does what is written of it, and what a look-up answers with was put in no longer ago than
it lives. -/
theorem run_specified (defaultTtl now : ℚ) {maxSize : Int} (room : 1 ≤ maxSize)
    (acts : List (Act ℚ α)) :
    let r := (start defaultTtl maxSize now).steps acts
    r.Specified ∧ r.cache.size ≤ maxSize ∧
      ∀ key value, (r.cache.get r.now key).1 = some value →
        ∃ e, r.Latest key e ∧ e.value = value ∧ r.now - e.created ≤ e.ttl := by
  intro r
  obtain ⟨sound, size⟩ := run_sound (α := α) defaultTtl now room acts
  have specified : r.Specified := sound.specified
  refine ⟨specified, ?_, ?_⟩
  · rw [← size]
    exact specified.within
  · intro key value answered
    obtain ⟨e, latest, same, lives⟩ := specified.latest key value answered
    refine ⟨e, latest, same, ?_⟩
    have notExpired : ¬ e.isExpired r.now = true := Bool.eq_false_iff.mp lives
    exact not_lt.mp fun late => notExpired ((e.isExpired_iff r.now).mpr late)

/-- Two keys in a cache of two, the first set again before its own span has passed: at the last
moment of the second set it is the second value that is found. -/
theorem overwritten_specified :
    let r := (start (5 : ℚ) 2 0).steps
      [.set "a" 1 (some 10), .move 4, .set "b" 2 none, .get "c", .set "a" 3 none, .move 9]
    (1 : Int) ≤ 2 ∧ (r.cache.get r.now "a").1 = some 3 ∧ r.Specified ∧ (r.cache.size : Int) ≤ 2 ∧
      ∃ e, r.Latest "a" e ∧ e.value = 3 ∧ r.now - e.created ≤ e.ttl := by
  intro r
  have room : (1 : Int) ≤ 2 := by decide
  have answered : (r.cache.get r.now "a").1 = some 3 := by decide +kernel
  obtain ⟨specified, within, latest⟩ := run_specified (α := Nat) 5 0 room
    [.set "a" 1 (some 10), .move 4, .set "b" 2 none, .get "c", .set "a" 3 none, .move 9]
  exact ⟨room, answered, specified, within, latest "a" 3 answered⟩

end Run

end Cache
end MetricDesk
