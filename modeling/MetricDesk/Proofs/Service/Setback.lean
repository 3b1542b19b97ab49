import MetricDesk.Proofs.Cache.Timeline
import MetricDesk.Proofs.Service.Retention

/-! Requests that come to nothing before there is a result. Main statements: `Reaches.trace`, a
request without a result leaves the caches as they were but for the plan that it has stored; and
`setback_undisturbed`, so does every request that fails or is given up on the way to a result, whole
requests among them. -/
namespace MetricDesk

variable {τ σ : Type}

/-- The plan that a request has in its hands, and whether it was kept. -/
def Stage.plan? : Stage → Option (Plan × Bool)
  | .planned plan planCached => some (plan, planCached)
  | .missing plan planCached => some (plan, planCached)
  | .computed plan planCached _ => some (plan, planCached)
  | .resulted plan planCached _ _ => some (plan, planCached)
  | .checked plan planCached _ _ => some (plan, planCached)
  | .answered a => some (a.plan, a.planCached)
  | .received | .unplanned | .drafted _ | .failed _ => none

/-- The request is still on its way to a result. -/
def Stage.isEarly : Stage → Bool
  | .received | .unplanned | .drafted _ | .planned .. | .missing .. => true
  | _ => false

/-- The request can be given up: it has not begun, or it waits for the planner or the source. -/
def Stage.waits : Stage → Bool
  | .received | .unplanned | .missing .. => true
  | _ => false

namespace Service

variable [Clock τ] (clock : Timeline τ) (v : Service σ) (question tenant : String)

/-- A request that nothing comes between has reached a stage. Each of its stages has an occasion of
its own, none before the last one's, and finds the source and the model in whatever state. -/
inductive Reaches (goal : Goal) (s : ServiceState τ σ) (t : τ) :
    Stage → ServiceState τ σ → τ → Prop where
  | received : Reaches goal s t .received s t
  | next {stage stage' : Stage} {s₁ s₂ : ServiceState τ σ} {t₁ : τ}
    (before : Reaches goal s t stage s₁ t₁) (source : Source) (model : σ) (o : Occasion τ)
    (later : clock.Before t₁ o.now)
    (goes : Service.next { v with source } o ⟨question, tenant, goal, stage⟩ { s₁ with model } =
      (.ok stage', s₂)) : Reaches goal s t stage' s₂ o.now

/-- A request for an answer that ends on its way to a result: a stage fails, or nobody waits any
longer. -/
inductive Setback (s : ServiceState τ σ) (t : τ) : Stage → ServiceState τ σ → τ → Prop where
  | fails {stage : Stage} {s₁ s₂ : ServiceState τ σ} {t₁ : τ} {failure : Failure}
    (before : Reaches clock v question tenant .answer s t stage s₁ t₁)
    (early : stage.isEarly = true) (source : Source) (model : σ) (o : Occasion τ)
    (later : clock.Before t₁ o.now)
    (fails : Service.next { v with source } o ⟨question, tenant, .answer, stage⟩
      { s₁ with model } = (.error failure, s₂)) : Setback s t stage s₂ o.now
  | abandoned {stage : Stage} {s₁ s₂ : ServiceState τ σ} {t₁ : τ}
    (before : Reaches clock v question tenant .answer s t stage s₁ t₁) (waits : stage.waits = true)
    (same : s₂.caches = s₁.caches) : Setback s t stage s₂ t₁

/-- The caches after a request, seen from a later reading of the clock: whatever lives was there
before. Only where the request has made a plan itself that plan stands under its question's key, and
one other may have made room for it. -/
structure Undisturbed (before after : Caches τ Result) (t now : τ) (stage : Stage) : Prop where
  results : ∀ k, after.results.live? now k = before.results.live? now k
  plans : (∀ plan, stage.plan? ≠ some (plan, false)) →
    ∀ k, after.plans.live? now k = before.plans.live? now k
  /-- Planning has succeeded where no plan was kept. -/
  planned : ∀ plan, stage.plan? = some (plan, false) →
    (plan.Valid ∧ ∃ day model model', v.planner.plan question day model = (.ok plan, model')) ∧
      before.plans.live? now (Key.plan v.digest question) = none ∧
      ∃ (stored : τ) (lost : Option String), clock.Before t stored ∧ clock.Before stored now ∧
        after.plans.entry? (Key.plan v.digest question) = some ⟨plan, stored, before.planTtl⟩ ∧
        (∀ k, k ≠ Key.plan v.digest question → after.plans.live? now k =
          if lost = some k then none else before.plans.live? now k) ∧
        (lost ≠ none → before.plans.maxSize ≤ before.plans.size)

/-- What a request has done when it has reached a stage before its result. -/
structure Trace (s : ServiceState τ σ) (t : τ) (stage : Stage) (s₁ : ServiceState τ σ) (t₁ : τ) :
    Prop where
  started : ∀ u, clock.Before t₁ u → clock.Before t u
  settings : s₁.caches.planTtl = s.caches.planTtl ∧
    s₁.caches.plans.maxSize = s.caches.plans.maxSize
  undisturbed : ∀ now, clock.Before t₁ now →
    Undisturbed clock v question s.caches s₁.caches t now stage
  /-- Until a plan is stored there is no entry more, and from the first look-up on none is live
  under the question's key. -/
  room : stage.plan? = none → s₁.caches.plans.size ≤ s.caches.plans.size
  missed : stage.plan? = none → stage = .received ∨ ∀ now, clock.Before t₁ now →
    s.caches.plans.live? now (Key.plan v.digest question) = none
  drafted : ∀ plan, stage = .drafted plan →
    plan.Valid ∧ ∃ day model model', v.planner.plan question day model = (.ok plan, model')

variable {clock v question tenant}

/-- One stage on the way to a result. -/
theorem Trace.step {s s₁ s₂ : ServiceState τ σ} {t t₁ : τ} {stage stage' : Stage}
    (trace : Trace clock v question s t stage s₁ t₁) {source : Source} {o : Occasion τ}
    (later : clock.Before t₁ o.now) (early : stage'.isEarly = true)
    (moves : Moves { v with source } o question tenant .answer s₁ stage stage' s₂) :
    Trace clock v question s t stage' s₂ o.now := by
  have started (u : τ) (after : clock.Before o.now u) : clock.Before t u :=
    trace.started u (later.trans after)
  have before (now : τ) (after : clock.Before o.now now) :=
    trace.undisturbed now (later.trans after)
  have untouched (now : τ) (after : clock.Before o.now now) (none : stage.plan? = none)
      (k : String) : s₁.caches.plans.live? now k = s.caches.plans.live? now k :=
    (before now after).plans (by simp [none]) k
  cases moves with
  | planKept found =>
    have kept := (s₁.caches.plans.size_get_le o.now (Key.plan v.digest question)).2
    refine ⟨started, trace.settings.imp_right kept.trans, fun now after => ?_, nofun, nofun, nofun⟩
    refine ⟨(before now after).results, fun _ k => ?_, by rintro plan ⟨⟩⟩
    exact (Cache.live?_get _ after _ k).trans (untouched now after rfl k)
  | planUnkept absent =>
    have kept := s₁.caches.plans.size_get_le o.now (Key.plan v.digest question)
    refine ⟨started, trace.settings.imp_right kept.2.trans, fun now after => ?_,
      fun _ => kept.1.trans (trace.room rfl), fun _ => Or.inr fun now after => ?_, nofun⟩
    · refine ⟨(before now after).results, fun _ k => ?_, nofun⟩
      exact (Cache.live?_get _ after _ k).trans (untouched now after rfl k)
    · have dead : s₁.caches.plans.live? o.now (Key.plan v.digest question) = none :=
        Option.map_eq_none_iff.mp ((Cache.get_live _ _ _).1.symm.trans absent)
      rw [← untouched now after rfl, ← Cache.live?_of_dead after, dead]
      rfl
  | draft made =>
    refine ⟨started, trace.settings, fun now after => ?_, fun _ => trace.room rfl,
      fun _ => Or.inr fun now after => ?_, ?_⟩
    · exact ⟨(before now after).results, fun _ => untouched now after rfl, nofun⟩
    · exact (trace.missed rfl).resolve_left nofun now (later.trans after)
    · rintro _ ⟨⟩
      exact ⟨Planner.valid_of_plan made, _, _, _, made⟩
  | @storePlan plan =>
    obtain ⟨lost, stands, others, full⟩ := s₁.caches.plans.live?_set o.now
      (Key.plan v.digest question) plan (some s₁.caches.planTtl)
    have size := (s₁.caches.plans.roomFor_kept (Key.plan v.digest question)).1
    refine ⟨started, trace.settings.imp_right size.trans, fun now after => ?_, nofun, nofun, nofun⟩
    refine ⟨(before now after).results, fun kept => absurd rfl (kept plan), ?_⟩
    rintro _ ⟨⟩
    refine ⟨trace.drafted plan rfl,
      (trace.missed rfl).resolve_left nofun now (later.trans after), o.now, lost,
      started o.now (.refl later.right), after, ?_, fun k other => ?_, fun some => ?_⟩
    · rw [← trace.settings.1]
      exact stands
    · rw [← untouched now after rfl]
      exact others now k other
    · rw [← trace.settings.2]
      exact (full some).trans (Int.ofNat_le.mpr (trace.room rfl))
  | stay notAnswer => exact absurd rfl notAnswer
  | resultUnkept absent =>
    refine ⟨started, trace.settings, fun now after => ?_, nofun, nofun, nofun⟩
    refine ⟨fun k => ?_, (before now after).plans, (before now after).planned⟩
    exact (Cache.live?_get _ after _ k).trans ((before now after).results k)
  | _ => cases early

theorem isEarly_of_moves {o : Occasion τ} {goal : Goal} {s s' : ServiceState τ σ}
    {stage stage' : Stage} (moves : v.Moves o question tenant goal s stage stage' s')
    (early : stage'.isEarly = true) : stage.isEarly = true := by
  cases moves with
  | planKept | planUnkept | draft | storePlan | stay | resultUnkept => rfl
  | _ => cases early

theorem Reaches.trace {s s₁ : ServiceState τ σ} {t t₁ : τ} {stage : Stage}
    (h : Reaches clock v question tenant .answer s t stage s₁ t₁) (early : stage.isEarly = true) :
    Trace clock v question s t stage s₁ t₁ := by
  induction h with
  | received =>
    exact ⟨fun _ after => after, ⟨rfl, rfl⟩, fun _ _ => ⟨fun _ => rfl, fun _ _ => rfl, nofun⟩,
      fun _ => le_rfl, fun _ => Or.inl rfl, nofun⟩
  | @next stage stage' s₁ s₂ t₁ before source model o later goes ih =>
    have moves := moves_of_next goes
    have trace := ih (isEarly_of_moves moves early)
    have drifted : Trace clock v question s t stage { s₁ with model } t₁ :=
      ⟨trace.started, trace.settings, trace.undisturbed, trace.room, trace.missed, trace.drafted⟩
    exact drifted.step later early moves

/-- A request that comes to nothing on its way to a result leaves the caches undisturbed. -/
theorem Setback.undisturbed {s s' : ServiceState τ σ} {t t' now : τ} {stage : Stage}
    (h : Setback clock v question tenant s t stage s' t') (after : clock.Before t' now) :
    Undisturbed clock v question s.caches s'.caches t now stage := by
  cases h with
  | fails before early source model o later fails =>
    rw [caches_of_failure fails]
    exact (before.trace early).undisturbed now (later.trans after)
  | abandoned before waits same =>
    rw [same]
    refine (before.trace ?_).undisturbed now after
    cases stage with
    | received | unplanned | missing => rfl
    | _ => cases waits

/-! ### Whole requests -/

theorem Reaches.onward {goal : Goal} {s s₁ s₂ : ServiceState τ σ} {t t₁ : τ} {stage stage' : Stage}
    {o : Occasion τ} (h : Reaches clock v question tenant goal s t stage s₁ t₁)
    (later : clock.Before t₁ o.now)
    (goes : v.next o ⟨question, tenant, goal, stage⟩ s₁ = (.ok stage', s₂)) :
    Reaches clock v question tenant goal s t stage' s₂ o.now :=
  h.next v.source s₁.model o later goes

/-- The first stage of a request looks its plan up. -/
theorem next_received {s : ServiceState τ σ} {o : Occasion τ} {goal : Goal}
    (enabled : v.isEnabled = true) : v.next o ⟨question, tenant, goal, .received⟩ s =
      (.ok (match (s.caches.getPlan v.digest o.now question).1 with
        | some plan => .planned plan true
        | none => .unplanned),
      { s with caches := (s.caches.getPlan v.digest o.now question).2 }) := by
  simp only [next, enabled, Bool.not_true, Bool.and_false, Bool.false_eq_true, if_false,
    bind_apply, lookUpPlan]
  cases (s.caches.getPlan v.digest o.now question).1 <;> rfl

/-- A whole request for a plan reaches it, or is a setback. -/
theorem reaches_of_plan (tenant : String) {s s₁ : ServiceState τ σ} {t : τ} {o : Occasion τ}
    (later : clock.Before t o.now) (enabled : v.isEnabled = true)
    {found : Except Failure (Plan × Bool)} (planned : v.plan o question s = (found, s₁)) :
    match found with
      | .ok (plan, planCached) =>
        Reaches clock v question tenant .answer s t (.planned plan planCached) s₁ o.now
      | .error _ => Setback clock v question tenant s t .unplanned s₁ o.now := by
  simp only [plan, bind_apply, lookUpPlan] at planned
  cases kept : (s.caches.getPlan v.digest o.now question).1 with
  | some plan =>
    rw [kept] at planned
    cases planned
    exact .onward .received later (by rw [next_received enabled, kept])
  | none =>
    rw [kept] at planned
    have unplanned : Reaches clock v question tenant .answer s t .unplanned _ o.now :=
      .onward .received later (by rw [next_received enabled, kept])
    simp only [bind_apply, makePlan, withModel] at planned
    cases made : v.planner.plan question o.told.iso s.model with
    | mk outcome model =>
      rw [made] at planned
      cases outcome with
      | error failure =>
        cases planned
        apply Setback.fails unplanned rfl v.source s.model o (.refl later.right)
        simp only [next, bind_apply, makePlan, withModel, made]
        rfl
      | ok plan =>
        cases planned
        have drafted : Reaches clock v question tenant .answer s t (.drafted plan) _ o.now :=
          unplanned.onward (.refl later.right)
            (by simp only [next, bind_apply, makePlan, withModel, made]; rfl)
        exact drafted.onward (.refl later.right) rfl

theorem setback_of_result {s s₁ s' : ServiceState τ σ} {t t₁ : τ} {o : Occasion τ} {plan : Plan}
    {planCached : Bool} {failure : Failure}
    (before : Reaches clock v question tenant .answer s t (.planned plan planCached) s₁ t₁)
    (later : clock.Before t₁ o.now)
    (failed : v.result o question tenant plan s₁ = (.error failure, s')) :
    Setback clock v question tenant s t (.missing plan planCached) s' o.now := by
  simp only [result, bind_apply, lookUpResult] at failed
  cases kept : (s₁.caches.getResult v.digest o.now tenant plan).1 with
  | some found =>
    rw [kept] at failed
    cases failed
  | none =>
    rw [kept] at failed
    have missing : Reaches clock v question tenant .answer s t (.missing plan planCached)
        { s₁ with caches := (s₁.caches.getResult v.digest o.now tenant plan).2 } o.now :=
      before.onward later (by simp only [next, bind_apply, lookUpResult, kept]; rfl)
    simp only [bind_apply] at failed
    cases made : v.makeResult o question tenant plan
        { s₁ with caches := (s₁.caches.getResult v.digest o.now tenant plan).2 } with
    | mk outcome s₂ =>
      rw [made] at failed
      cases outcome with
      | error fault =>
        cases failed
        apply Setback.fails missing rfl v.source s₁.model o (.refl later.right)
        simp only [next, bind_apply, made]
        rfl
      | ok found => cases failed

/-- A whole request that fails without a result is a setback. -/
theorem setback_of_ask {s s' : ServiceState τ σ} {t : τ} {o : Occasion τ} {failure : Failure}
    (later : clock.Before t o.now) (failed : v.ask o question tenant s = (.error failure, s'))
    (without : ∀ plan planCached s₁, v.plan o question s = (.ok (plan, planCached), s₁) →
      ∃ failure, (v.result o question tenant plan s₁).1 = .error failure) :
    ∃ stage t', (t' = t ∨ t' = o.now) ∧ Setback clock v question tenant s t stage s' t' := by
  rcases World.ask_cases v o question tenant s with ⟨other, spent⟩ | answers
  · cases spent.symm.trans failed
    exact ⟨.received, t, Or.inl rfl, .abandoned .received rfl rfl⟩
  rw [answers, answer] at failed
  cases enabled : v.isEnabled with
  | false =>
    rw [enabled] at failed
    cases failed
    exact ⟨.received, t, Or.inl rfl, .abandoned .received rfl rfl⟩
  | true =>
    simp only [enabled, Bool.not_true, Bool.false_eq_true, if_false, bind_apply] at failed
    cases planned : v.plan o question s with
    | mk found s₁ =>
      have reached := reaches_of_plan tenant later enabled planned
      rw [planned] at failed
      cases found with
      | error failure =>
        cases failed
        exact ⟨.unplanned, o.now, Or.inr rfl, reached⟩
      | ok out =>
        obtain ⟨plan, planCached⟩ := out
        obtain ⟨fault, none⟩ := without plan planCached s₁ planned
        cases made : v.result o question tenant plan s₁ with
        | mk outcome s₂ =>
          rw [made] at none
          obtain rfl : outcome = .error fault := none
          simp only [made] at failed
          cases failed
          exact ⟨_, o.now, Or.inr rfl, setback_of_result reached (.refl later.right) made⟩

/-- Whatever the caches hold: a request that fails or is given up on the way to a result leaves
them undisturbed, each stage at a time of its own; and a whole request that fails is one of these,
unless it has had its result. -/
theorem setback_undisturbed (clock : Timeline τ) (v : Service σ) (question tenant : String)
    (s : ServiceState τ σ) (t : τ) :
    (∀ stage s' t' now, Setback clock v question tenant s t stage s' t' → clock.Before t' now →
      Undisturbed clock v question s.caches s'.caches t now stage) ∧
    ∀ o failure s', clock.Before t o.now → v.ask o question tenant s = (.error failure, s') →
      (∀ plan planCached s₁, v.plan o question s = (.ok (plan, planCached), s₁) →
        ∃ failure, (v.result o question tenant plan s₁).1 = .error failure) →
      ∃ stage t', (t' = t ∨ t' = o.now) ∧ Setback clock v question tenant s t stage s' t' :=
  ⟨fun _ _ _ _ setback after => setback.undisturbed after,
    fun _ _ _ later failed without => setback_of_ask later failed without⟩

/-- So many seconds after the start. -/
def atSecond (n : Nat) : Occasion Number := { World.noon with now := .dbl (.ofInt n) }

theorem before_atSecond : ∀ n ≤ 3, ∀ m ≤ n,
    Timeline.doubles.Before (atSecond m).now (atSecond n).now := by
  have finite : ∀ n ≤ 3, (Double.ofInt (n : Nat)).isFinite = true := by decide +kernel
  have notBack : ∀ n ≤ 3, ∀ m ≤ n, Clock.lt (atSecond n).now (atSecond m).now = false := by
    decide +kernel
  intro n small m le
  exact Timeline.before_of_not_lt ⟨_, rfl, finite m (le.trans small)⟩ ⟨_, rfl, finite n small⟩
    (notBack n small m le)

/-- The built-in rules over a source that is down. -/
def cutOff : Service Unit :=
  { World.plainKeys with source := fun _ => .fails (.reported .dataSource "connection lost") }

/-- What a question has left behind in caches that have room for one entry each. -/
def askedOnce : ServiceState Number Unit :=
  (World.plainKeys.ask (atSecond 1) "revenue" "game-1"
    ⟨.empty (.int 60) (.int 60) 1, (), []⟩).2

/-- Another question for which the source is down: its plan takes the place of the first, whose
result is still kept. -/
theorem cutOff_undisturbed : ∃ failure s' stage t',
    cutOff.ask (atSecond 2) "users" "game-1" askedOnce = (.error failure, s') ∧
      Setback .doubles cutOff "users" "game-1" askedOnce (atSecond 1).now stage s' t' ∧
      Undisturbed .doubles cutOff "users" askedOnce.caches s'.caches (atSecond 1).now
        (atSecond 3).now stage := by
  have first := before_atSecond 2 (by decide) 1 (by decide)
  have second := before_atSecond 3 (by decide) 2 (by decide)
  obtain ⟨fails, without⟩ :
      (cutOff.ask (atSecond 2) "users" "game-1" askedOnce).1.toOption.isNone = true ∧
      (cutOff.plan (atSecond 2) "users" askedOnce).1.toOption.all (fun out =>
        (cutOff.result (atSecond 2) "users" "game-1" out.1
          (cutOff.plan (atSecond 2) "users" askedOnce).2).1.toOption.isNone) = true := by
    decide +kernel
  obtain ⟨leaves, whole⟩ :=
    setback_undisturbed .doubles cutOff "users" "game-1" askedOnce (atSecond 1).now
  cases failed : cutOff.ask (atSecond 2) "users" "game-1" askedOnce with
  | mk outcome s' =>
    rw [failed] at fails
    cases outcome with
    | ok a => cases fails
    | error failure =>
      obtain ⟨stage, t', ends, setback⟩ := whole (atSecond 2) failure s' first failed
        (fun plan planCached s₁ planned => by
          rw [planned] at without
          cases made : (cutOff.result (atSecond 2) "users" "game-1" plan s₁).1 with
          | error fault => exact ⟨fault, rfl⟩
          | ok out => simp [Except.toOption, made] at without)
      refine ⟨failure, s', stage, t', rfl, setback, leaves stage s' t' _ setback ?_⟩
      rcases ends with rfl | rfl
      · exact first.trans second
      · exact second

end Service
end MetricDesk
