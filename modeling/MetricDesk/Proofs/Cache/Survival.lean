import MetricDesk.Proofs.Cache.Eviction

/-! How long an entry survives a run of a cache whose clock does not go back. Main statements:
`outlasts_step`, whatever is done to the cache an entry that lives stays, if it is not replaced and
there is room beside it for what was put in since; and `run_retained`, on a clock of exact numbers a
value is found until its span has passed or as many other keys were put in since as there is room
for. -/
namespace MetricDesk

/-- Exact numbers as readings. -/
def Timeline.exact : Timeline ℚ where
  Reading _ := True
  point t := t
  lt_iff _ _ := decide_eq_true_iff
  ages {s t} _ _ le ttl created dead := by
    change decide (ttl < s - created) = true at dead
    change decide (ttl < t - created) = true
    rw [decide_eq_true_iff] at dead ⊢
    exact dead.trans_le (sub_le_sub_right le created)

namespace Cache

variable {τ α : Type}

namespace Act

/-- The reading of the clock after an act. -/
def after (now : τ) : Act τ α → τ
  | .move t => t
  | _ => now

/-- The key that an act puts in. -/
def stored? : Act τ α → Option String
  | .set key _ _ => some key
  | _ => none

/-- It puts something else in under a key, or drops everything. -/
def Ends (key : String) : Act τ α → Prop
  | .set k _ _ => k = key
  | .clear => True
  | .get _ | .sweep | .move _ => False

end Act

/-- The keys that acts put in, the latest first. -/
def stored (acts : List (Act τ α)) : List String := (acts.filterMap Act.stored?).reverse

theorem stored_cons (act : Act τ α) (acts : List (Act τ α)) :
    stored (act :: acts) = stored acts ++ act.stored?.toList := by
  cases shape : act.stored? <;> simp [stored, shape]

variable [Clock τ]

/-- The clock does not go back. -/
def Forward (clock : Timeline τ) : τ → List (Act τ α) → Prop
  | _, [] => True
  | now, act :: acts => clock.Before now (act.after now) ∧ Forward clock (act.after now) acts

namespace Run

variable {clock : Timeline τ} {r : Run τ α}

theorem now_step (r : Run τ α) (act : Act τ α) : (r.step act).now = act.after r.now := by
  cases act <;> rfl

theorem defaultTtl_step (r : Run τ α) (act : Act τ α) :
    (r.step act).cache.defaultTtl = r.cache.defaultTtl := by
  cases act with
  | set key value ttl =>
    change (r.cache.roomFor key).defaultTtl = r.cache.defaultTtl
    rcases roomFor_cases r.cache key with ⟨same, -⟩ | ⟨-, -, k, -, removed⟩
    · rw [same]
    · rw [removed]
      rfl
  | get key =>
    change (r.cache.get r.now key).2.defaultTtl = r.cache.defaultTtl
    rcases get_cases r.cache r.now key with ⟨same, -⟩ | ⟨e, same, -⟩ | ⟨e, same, -⟩
    · rw [same]
    · rw [same]
      rfl
    · rw [same]
  | sweep | clear | move t => rfl

theorem settings_steps (r : Run τ α) (acts : List (Act τ α)) :
    (r.steps acts).cache.maxSize = r.cache.maxSize ∧
      (r.steps acts).cache.defaultTtl = r.cache.defaultTtl := by
  induction acts generalizing r with
  | nil => exact ⟨rfl, rfl⟩
  | cons act acts ih =>
    obtain ⟨size, span⟩ := ih (r.step act)
    exact ⟨size.trans (maxSize_step r act), span.trans (defaultTtl_step r act)⟩

/-! ### The clock -/

theorem before_steps {acts : List (Act τ α)} (reads : clock.Reading r.now)
    (forward : Forward clock r.now acts) : clock.Before r.now (r.steps acts).now := by
  induction acts generalizing r with
  | nil => exact .refl reads
  | cons act acts ih =>
    obtain ⟨here, later⟩ := forward
    rw [← now_step r act] at here later
    exact here.trans (ih here.right later)

theorem forward_append {front back : List (Act τ α)}
    (forward : Forward clock r.now (front ++ back)) :
    Forward clock r.now front ∧ Forward clock (r.steps front).now back := by
  induction front generalizing r with
  | nil => exact ⟨trivial, forward⟩
  | cons act front ih =>
    obtain ⟨here, later⟩ := forward
    have later' := later
    rw [← now_step r act] at later'
    obtain ⟨first, second⟩ := ih later'
    rw [now_step] at first
    exact ⟨⟨here, first⟩, second⟩

/-! ### Entries in order -/

theorem orderly_step (h : Orderly clock r.now r.cache) {act : Act τ α}
    (before : clock.Before r.now (act.after r.now)) :
    Orderly clock (r.step act).now (r.step act).cache := by
  cases act with
  | set key value ttl => exact h.set before.left key value ttl
  | get key => exact h.get key
  | sweep =>
    exact ⟨h.once.sublist (List.filter_sublist.map _),
      fun x mem => h.past x (List.mem_filter.mp mem).1⟩
  | clear => exact .of_nil rfl
  | move t => exact h.later before

theorem orderly_steps (h : Orderly clock r.now r.cache) {acts : List (Act τ α)}
    (forward : Forward clock r.now acts) :
    Orderly clock (r.steps acts).now (r.steps acts).cache := by
  induction acts generalizing r with
  | nil => exact h
  | cons act acts ih =>
    obtain ⟨here, later⟩ := forward
    rw [← now_step r act] at later
    exact ih (orderly_step h here) later

/-! ### An entry that stays -/

variable {key : String} {e : Entry τ α} {since : List String}

theorem outlasts_step (h : Outlasts clock r.cache key e since) (reads : clock.Reading r.now)
    (alive : e.isExpired r.now = false) {act : Act τ α} (lasts : ¬ act.Ends key)
    (fits : Fits r.cache.maxSize key (act.stored?.toList ++ since)) :
    Outlasts clock (r.step act).cache key e (act.stored?.toList ++ since) := by
  cases act with
  | set k value ttl => exact h.set reads fits lasts value ttl
  | get k => exact h.get alive k
  | sweep =>
    exact h.filter (p := fun entry => !entry.2.isExpired r.now) (by simp [alive]) rfl
  | clear => exact absurd trivial lasts
  | move t => exact h

/-- It stays as long as it would live at the end. -/
theorem outlasts_steps {acts : List (Act τ α)} (h : Outlasts clock r.cache key e since)
    (reads : clock.Reading r.now) (forward : Forward clock r.now acts)
    (alive : e.isExpired (r.steps acts).now = false) (lasts : ∀ act ∈ acts, ¬ act.Ends key)
    (fits : Fits r.cache.maxSize key (stored acts ++ since)) :
    Outlasts clock (r.steps acts).cache key e (stored acts ++ since) := by
  induction acts generalizing r since with
  | nil => exact h
  | cons act acts ih =>
    have whole := before_steps reads forward
    obtain ⟨here, later⟩ := forward
    rw [← now_step r act] at here later
    -- The clock does not go back, so what lives at the end lives here.
    have alive' : e.isExpired r.now = false := by
      rw [← Bool.not_eq_true]
      intro dead
      have dead := whole.dead dead
      rw [alive] at dead
      cases dead
    rw [stored_cons, List.append_assoc] at fits ⊢
    have now := outlasts_step h reads alive' (lasts act List.mem_cons_self)
      (fits.mono (List.subset_append_right _ _))
    refine ih now here.right later alive (fun x mem => lasts x (List.mem_cons_of_mem _ mem)) ?_
    rwa [maxSize_step]

omit [Clock τ] in
theorem not_mem_stored {acts : List (Act τ α)} (lasts : ∀ act ∈ acts, ¬ act.Ends key) :
    key ∉ stored acts := by
  intro mem
  obtain ⟨act, here, stores⟩ := List.mem_filterMap.mp (List.mem_reverse.mp mem)
  cases act with
  | set k value ttl => exact lasts _ here (Option.some.inj stores)
  | get | sweep | clear | move => cases stores

/-- A value that was put in under a key which was not there is found until its span has passed, if
it was not replaced or cleared and fewer other keys were put in since than there is room for. How
often these were put in, and at which readings, makes no difference. -/
theorem run_retained (defaultTtl now : ℚ) (maxSize : Int) (before after : List (Act ℚ α))
    (key : String) (value : α) (ttl : Option ℚ)
    (forward : Forward .exact now (before ++ .set key value ttl :: after))
    (absent : ((start defaultTtl maxSize now).steps before).cache.entry? key = none)
    (lasts : ∀ act ∈ after, ¬ act.Ends key)
    (fewer : ((stored after).toFinset.card : Int) < maxSize) :
    let r := (start defaultTtl maxSize now).steps before
    let s := (r.step (.set key value ttl)).steps after
    s.now ≤ r.now + ttl.getD defaultTtl → (s.cache.get s.now key).1 = some value := by
  intro r s within
  have ordered : Orderly Timeline.exact now (start (α := α) defaultTtl maxSize now).cache :=
    .of_nil rfl
  obtain ⟨front, -, back⟩ := forward_append (r := start defaultTtl maxSize now) forward
  obtain ⟨size, span⟩ := settings_steps (start (α := α) defaultTtl maxSize now) before
  have put := (orderly_steps ordered front).outlasts_of_absent trivial absent value ttl
  rw [span] at put
  have alive : Entry.isExpired (τ := ℚ) ⟨value, r.now, ttl.getD defaultTtl⟩ s.now = false := by
    rw [← Bool.not_eq_true, Entry.isExpired_iff]
    exact not_lt.mpr (sub_le_iff_le_add'.mpr within)
  have fits : Fits (r.step (.set key value ttl)).cache.maxSize key (stored after ++ []) := by
    rw [maxSize_step, size, List.append_nil, Fits, Finset.erase_eq_of_notMem]
    · exact fewer
    · exact fun mem => not_mem_stored lasts (List.mem_toFinset.mp mem)
  have stays := outlasts_steps (r := r.step (.set key value ttl)) put trivial back alive lasts fits
  exact stays.get_eq alive

/-- A cache of two at one reading of its clock: another key, the key, and the other twice more. The
key stands behind and is no newer, yet it is found at the last moment of its span. -/
theorem rewritten_retained :
    let r := (start (5 : ℚ) 2 0).steps [.set "b" 1 none, .move 3]
    let after : List (Act ℚ Nat) := [.set "b" 3 none, .get "a", .set "b" 4 (some 0), .move 8]
    let s := (r.step (.set "a" 2 none)).steps after
    Forward .exact 0 ([.set "b" 1 none, .move 3] ++ .set "a" 2 none :: after) ∧
      r.cache.entry? "a" = none ∧ (∀ act ∈ after, ¬ act.Ends "a") ∧
      ((stored after).toFinset.card : Int) < 2 ∧ s.now ≤ r.now + 5 ∧
      (s.cache.get s.now "a").1 = some 2 := by
  intro r after s
  have forward : Forward .exact 0 ([.set "b" 1 none, .move 3] ++ .set "a" 2 none :: after) := by
    refine ⟨.refl trivial, ⟨trivial, trivial, ?_⟩, .refl trivial, .refl trivial, .refl trivial,
      .refl trivial, ⟨trivial, trivial, ?_⟩, trivial⟩
    · exact (by decide +kernel : (0 : ℚ) ≤ 3)
    · exact (by decide +kernel : (3 : ℚ) ≤ 8)
  have absent : r.cache.entry? "a" = none := by decide +kernel
  have lasts : ∀ act ∈ after, ¬ act.Ends "a" := by simp [after, Act.Ends]
  have fewer : ((stored after).toFinset.card : Int) < 2 := by decide +kernel
  have within : s.now ≤ r.now + 5 := (by decide +kernel : (8 : ℚ) ≤ 3 + 5)
  exact ⟨forward, absent, lasts, fewer, within,
    run_retained 5 0 2 _ after "a" 2 none forward absent lasts fewer within⟩

end Run

end Cache
end MetricDesk
