import MetricDesk.Proofs.Cache.Survival
import MetricDesk.Service.Build

/-! What a full cache gives up. Each of the two caches of the service puts everything in for one
span, so that the oldest entry is dead if any is, although spans are not looked at when one is
evicted. Main statements: `even_step`, whatever is done every entry of a cache lives for its span;
`live_spared`, on a clock of exact numbers that may go back, no live entry is dropped while a dead
one is stored; and `cachesFor_spared`, the same for the caches of any settings and a clock of
doubles. -/
namespace MetricDesk

namespace Timeline

variable {τ : Type} [Clock τ]

/-- Of two entries with one span the older is dead if the newer is, also where the clock reads less
than when they were put in. -/
def Fair (clock : Timeline τ) : Prop :=
  ∀ {s t now : τ}, clock.Reading s → clock.Reading t → clock.Reading now →
    clock.point s ≤ clock.point t → ∀ ttl : τ,
      Clock.lt ttl (Clock.since now t) = true → Clock.lt ttl (Clock.since now s) = true

theorem fair_exact : exact.Fair := by
  intro s t now _ _ _ le ttl dead
  change decide (ttl < now - t) = true at dead
  change decide (ttl < now - s) = true
  rw [decide_eq_true_iff] at dead ⊢
  exact dead.trans_le (sub_le_sub_left le now)

/-- Finite doubles are fair: a span from an earlier one is not rounded to a shorter one. -/
theorem fair_doubles : doubles.Fair := by
  rintro _ _ _ ⟨y, rfl, finiteY⟩ ⟨z, rfl, finiteZ⟩ ⟨x, rfl, finiteX⟩ le ttl less
  apply Number.lt_of_place_le (Double.isNan_sub finiteX finiteY) _ less
  rw [Double.place_sub finiteX finiteZ, Double.place_sub finiteX finiteY]
  exact Double.place_rounded_mono (sub_le_sub_left le _)

end Timeline

namespace Cache

variable {τ α : Type}

/-- An entry is dropped: nothing stands under its key any more. -/
def Drops (before after : Cache τ α) (x : String × Entry τ α) : Prop :=
  x ∈ before.entries ∧ x.1 ∉ after.keys

variable [Clock τ] {clock : Timeline τ}

/-- What is dropped is dead, or all that was stored lives. -/
def Spares (now : τ) (before after : Cache τ α) : Prop :=
  ∀ x, Drops before after x →
    x.2.isExpired now = true ∨ ∀ y ∈ before.entries, y.2.isExpired now = false

theorem spares_self (now : τ) (c : Cache τ α) : Spares now c c :=
  fun _ drops => absurd (List.mem_map_of_mem drops.1) drops.2

/-! ### The oldest entry -/

theorem oldest?_le {entries : List (String × Entry τ α)} {oldest : String × Entry τ α}
    (reads : ∀ x ∈ entries, clock.Reading x.2.created) (h : oldest? entries = some oldest) :
    ∀ x ∈ entries, clock.point oldest.2.created ≤ clock.point x.2.created := by
  cases entries with
  | nil => cases h
  | cons first rest =>
    induction rest generalizing first with
    | nil =>
      cases h
      simp
    | cons next rest ih =>
      obtain ⟨readsFirst, readsRest⟩ := List.forall_mem_cons.mp reads
      have older := clock.lt_iff (readsRest next List.mem_cons_self) readsFirst
      -- The older of the first two goes on, and the other is no older.
      change oldest? ((if Clock.lt next.2.created first.2.created then next else first) :: rest) =
        some oldest at h
      by_cases less : clock.point next.2.created < clock.point first.2.created
      · rw [if_pos (older.mpr less)] at h
        have all := ih next readsRest h
        exact List.forall_mem_cons.mpr ⟨(all next List.mem_cons_self).trans less.le, all⟩
      · rw [if_neg fun lt => less (older.mp lt)] at h
        have readsOthers : ∀ x ∈ first :: rest, clock.Reading x.2.created :=
          List.forall_mem_cons.mpr
            ⟨readsFirst, fun x mem => readsRest x (List.mem_cons_of_mem next mem)⟩
        have all := ih first readsOthers h
        obtain ⟨least, others⟩ := List.forall_mem_cons.mp all
        exact List.forall_mem_cons.mpr
          ⟨least, List.forall_mem_cons.mpr ⟨least.trans (not_lt.mp less), others⟩⟩

/-! ### Entries of one span -/

/-- Each key once, put in at a reading of the clock, for one span. -/
structure Even (clock : Timeline τ) (span : τ) (c : Cache τ α) : Prop where
  once : c.keys.Nodup
  reads : ∀ x ∈ c.entries, clock.Reading x.2.created
  spans : ∀ x ∈ c.entries, x.2.ttl = span

namespace Even

variable {span now : τ} {c : Cache τ α}

theorem of_nil (empty : c.entries = []) : Even clock span c := by
  refine ⟨?_, ?_, ?_⟩
  · simp [keys, empty]
  · simp [empty]
  · simp [empty]

theorem get (h : Even clock span c) (now : τ) (key : String) : Even clock span (c.get now key).2 :=
  ⟨nodup_get h.once now key, fun x mem => h.reads x (get_subset c now key x mem),
    fun x mem => h.spans x (get_subset c now key x mem)⟩

theorem set (h : Even clock span c) (reads : clock.Reading now) (key : String) (value : α) :
    Even clock span (c.set now key value (some span)) := by
  refine ⟨nodup_set h.once now key value (some span), fun x mem => ?_, fun x mem => ?_⟩
  · rcases mem_set mem with ⟨-, new⟩ | old
    · rw [new]
      exact reads
    · exact h.reads x old
  · rcases mem_set mem with ⟨-, new⟩ | old
    · rw [new]
      rfl
    · exact h.spans x old

/-- The oldest entry is dead if any is. -/
theorem dead_of_oldest (h : Even clock span c) (fair : clock.Fair) (reads : clock.Reading now)
    {oldest : String × Entry τ α} (found : oldest? c.entries = some oldest)
    (dead : ∃ y ∈ c.entries, y.2.isExpired now = true) : oldest.2.isExpired now = true := by
  obtain ⟨y, mem, dead⟩ := dead
  have listed := mem_of_oldest? found
  have older := oldest?_le h.reads found y mem
  unfold Entry.isExpired at dead ⊢
  rw [h.spans y mem] at dead
  rw [h.spans oldest listed]
  exact fair (h.reads oldest listed) (h.reads y mem) reads older span dead

/-- A set drops the oldest entry if it drops any. -/
theorem oldest_of_drops (h : Even clock span c) {key : String} {value : α} {ttl : Option τ}
    {x : String × Entry τ α} (drops : Drops c (c.set now key value ttl) x) :
    oldest? c.entries = some x := by
  obtain ⟨mem, gone⟩ := drops
  have gone : x.1 ∉ (c.roomFor key).keys := by
    intro there
    apply gone
    rw [set_eq, keys, keys_put]
    split
    · exact there
    · exact List.mem_append_left _ there
  unfold roomFor at gone
  split at gone
  · cases found : oldest? c.entries with
    | none =>
      rw [evictOldest, found] at gone
      exact absurd (List.mem_map_of_mem mem) gone
    | some oldest =>
      rw [evictOldest, found] at gone
      have same : x.1 = oldest.1 := by
        by_contra other
        apply gone
        apply List.mem_map_of_mem
        exact List.mem_filter.mpr ⟨mem, by simpa using other⟩
      rw [List.inj_on_of_nodup_map h.once mem (mem_of_oldest? found) same]
  · exact absurd (List.mem_map_of_mem mem) gone

theorem spares_set (h : Even clock span c) (fair : clock.Fair) (reads : clock.Reading now)
    (key : String) (value : α) (ttl : Option τ) : Spares now c (c.set now key value ttl) := by
  intro x drops
  by_cases dead : ∃ y ∈ c.entries, y.2.isExpired now = true
  · exact Or.inl (h.dead_of_oldest fair reads (h.oldest_of_drops drops) dead)
  · exact Or.inr fun y mem => Bool.eq_false_iff.mpr fun expired => dead ⟨y, mem, expired⟩

/-- A look-up drops nothing that lives. -/
theorem spares_get (h : Even clock span c) (now : τ) (key : String) :
    Spares now c (c.get now key).2 := by
  rintro x ⟨mem, gone⟩
  have found : c.entry? x.1 = some x.2 := (mem_iff_lookup h.once).mp mem
  have lost := entry?_eq_none.mpr gone
  rw [(c.get_live now key).2 x.1] at lost
  split at lost
  · rw [live?, found] at lost
    exact Or.inl (by simpa [Option.filter] using lost)
  · rw [found] at lost
    cases lost

end Even

end Cache

/-! ### Runs of both caches -/

namespace Caches

variable {τ ρ : Type}

/-- What can be done to the caches, and a move of their clock to another reading. -/
inductive Act (τ ρ : Type) where
  | setPlan (question : String) (plan : Plan)
  | getPlan (question : String)
  | setResult (tenant : String) (plan : Plan) (result : ρ)
  | getResult (tenant : String) (plan : Plan)
  | clear
  | move (now : τ)

/-- The caches and the reading of their clock. -/
structure Run (τ ρ : Type) where
  caches : Caches τ ρ
  now : τ

/-- Moves of the clock are to readings of it. -/
def Act.Reads [Clock τ] (clock : Timeline τ) : Act τ ρ → Prop
  | .move now => clock.Reading now
  | _ => True

namespace Run

variable [Clock τ]

def step (digest : Key.Digest) (r : Run τ ρ) : Act τ ρ → Run τ ρ
  | .setPlan question plan => { r with caches := r.caches.setPlan digest r.now question plan }
  | .getPlan question => { r with caches := (r.caches.getPlan digest r.now question).2 }
  | .setResult tenant plan result =>
    { r with caches := r.caches.setResult digest r.now tenant plan result }
  | .getResult tenant plan => { r with caches := (r.caches.getResult digest r.now tenant plan).2 }
  | .clear => { r with caches := r.caches.clear.2 }
  | .move now => { r with now }

def steps (digest : Key.Digest) (r : Run τ ρ) (acts : List (Act τ ρ)) : Run τ ρ :=
  acts.foldl (step digest) r

/-- Plans are kept for one span and results for another. -/
structure Even (clock : Timeline τ) (r : Run τ ρ) : Prop where
  reads : clock.Reading r.now
  plans : Cache.Even clock r.caches.planTtl r.caches.plans
  results : Cache.Even clock r.caches.resultTtl r.caches.results

variable {clock : Timeline τ} {digest : Key.Digest} {r : Run τ ρ}

/-- Whatever is done, every entry of a cache lives for its span. -/
theorem even_step (h : Even clock r) {act : Act τ ρ} (reads : act.Reads clock) :
    Even clock (r.step digest act) := by
  cases act with
  | setPlan question plan => exact ⟨h.reads, h.plans.set h.reads _ plan, h.results⟩
  | getPlan question => exact ⟨h.reads, h.plans.get r.now _, h.results⟩
  | setResult tenant plan result => exact ⟨h.reads, h.plans, h.results.set h.reads _ result⟩
  | getResult tenant plan => exact ⟨h.reads, h.plans, h.results.get r.now _⟩
  | clear => exact ⟨h.reads, .of_nil rfl, .of_nil rfl⟩
  | move now => exact ⟨reads, h.plans, h.results⟩

theorem even_steps (h : Even clock r) {acts : List (Act τ ρ)}
    (reads : ∀ act ∈ acts, act.Reads clock) : Even clock (r.steps digest acts) := by
  induction acts generalizing r with
  | nil => exact h
  | cons act acts ih =>
    obtain ⟨here, later⟩ := List.forall_mem_cons.mp reads
    exact ih (even_step h here) later

/-- What an act drops from either cache, other than wholesale, is dead if anything in it is. -/
theorem Even.spares (h : Even clock r) (fair : clock.Fair) {act : Act τ ρ} (keeps : act ≠ .clear) :
    Cache.Spares r.now r.caches.plans (r.step digest act).caches.plans ∧
      Cache.Spares r.now r.caches.results (r.step digest act).caches.results := by
  cases act with
  | setPlan question plan =>
    exact ⟨h.plans.spares_set fair h.reads _ plan _, Cache.spares_self r.now _⟩
  | getPlan question => exact ⟨h.plans.spares_get r.now _, Cache.spares_self r.now _⟩
  | setResult tenant plan result =>
    exact ⟨Cache.spares_self r.now _, h.results.spares_set fair h.reads _ result _⟩
  | getResult tenant plan => exact ⟨Cache.spares_self r.now _, h.results.spares_get r.now _⟩
  | clear => exact absurd rfl keeps
  | move now => exact ⟨Cache.spares_self r.now _, Cache.spares_self r.now _⟩

/-- Caches without entries. -/
def start (planTtl resultTtl : τ) (maxSize : Int) (now : τ) : Run τ ρ :=
  ⟨.empty planTtl resultTtl maxSize, now⟩

theorem even_start {now : τ} (reads : clock.Reading now) (planTtl resultTtl : τ) (maxSize : Int) :
    Even clock (start planTtl resultTtl maxSize now : Run τ ρ) :=
  ⟨reads, .of_nil rfl, .of_nil rfl⟩

/-- The caches of any settings, on a clock of doubles: no live entry is dropped while a dead one is
stored, although spans are rounded. -/
theorem cachesFor_spared (s : Settings) {now : Number} (reads : Timeline.doubles.Reading now)
    {acts : List (Act Number ρ)} (moves : ∀ act ∈ acts, act.Reads .doubles) {act : Act Number ρ}
    (keeps : act ≠ .clear) :
    let r := (⟨Service.cachesFor s, now⟩ : Run Number ρ).steps digest acts
    Cache.Spares r.now r.caches.plans (r.step digest act).caches.plans ∧
      Cache.Spares r.now r.caches.results (r.step digest act).caches.results :=
  (even_steps (even_start reads _ _ _) moves).spares Timeline.fair_doubles keeps

/-- Caches of any spans and any size, after any run on a clock of exact numbers that may go back: a
set that evicts, or a look-up, drops nothing that lives while anything dead is stored. -/
theorem live_spared (planTtl resultTtl now : ℚ) (maxSize : Int) (digest : Key.Digest)
    (acts : List (Act ℚ ρ)) {act : Act ℚ ρ} (keeps : act ≠ .clear) :
    let r := (start planTtl resultTtl maxSize now).steps digest acts
    Cache.Spares r.now r.caches.plans (r.step digest act).caches.plans ∧
      Cache.Spares r.now r.caches.results (r.step digest act).caches.results := by
  have moves : ∀ act ∈ acts, act.Reads Timeline.exact := by
    intro act _
    cases act <;> trivial
  exact (even_steps (even_start trivial _ _ _) moves).spares Timeline.fair_exact keeps

/-- The revenue of a week. -/
def weekly : Plan := ⟨"all", .revenue, .day, 7, [], .none, ["trend"], [], .short⟩

/-- Three plans for five seconds, the second of them put in after the clock had gone back: of the
two that are dead the one that was put in at the earlier reading goes, and the live one stays. -/
theorem setBack_spared :
    let acts : List (Act ℚ Nat) := [.move 2, .setPlan "dau" weekly, .move 0,
      .setPlan "arpdau" weekly, .move 9, .setPlan "revenue" weekly, .move 10]
    let act : Act ℚ Nat := .setPlan "installs" weekly
    let r := (start 5 1 3 0).steps id acts
    let s := r.step id act
    act ≠ .clear ∧ ∃ x, Cache.Drops r.caches.plans s.caches.plans x ∧
      x.1 = Key.plan id "arpdau" ∧ x.2.isExpired r.now = true ∧
      (s.caches.plans.entries.map (·.2.isExpired r.now)) = [true, false, false] := by
  intro acts act r s
  have keeps : act ≠ .clear := nofun
  have there : Key.plan id "arpdau" ∈ r.caches.plans.keys := by decide +kernel
  have gone : Key.plan id "arpdau" ∉ s.caches.plans.keys := by decide +kernel
  have dead : r.caches.plans.entries.any (·.2.isExpired r.now) = true := by decide +kernel
  have left : (s.caches.plans.entries.map (·.2.isExpired r.now)) = [true, false, false] := by
    decide +kernel
  obtain ⟨x, mem, same⟩ := List.mem_map.mp there
  have drops : Cache.Drops r.caches.plans s.caches.plans x := ⟨mem, same ▸ gone⟩
  refine ⟨keeps, x, drops, same, ?_, left⟩
  rcases (live_spared 5 1 0 3 id acts keeps).1 x drops with expired | live
  · exact expired
  · obtain ⟨y, listed, expired⟩ := List.any_eq_true.mp dead
    rw [live y listed] at expired
    cases expired

end Run
end Caches
end MetricDesk
