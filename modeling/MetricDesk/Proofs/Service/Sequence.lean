import MetricDesk.Proofs.Cache.Eviction
import MetricDesk.Proofs.Service.Setback

/-! Requests one after the other, on a clock that does not go back. Main statement:
`Sequential.orderly`, between them the caches hold each key once and nothing from later on, and have
the settings that they were built with. -/
namespace MetricDesk

variable {τ σ : Type}

/-- The plan whose result a request has in its hands, and whether the result was kept. -/
def Stage.result? : Stage → Option (Plan × Bool)
  | .resulted plan _ _ resultCached => some (plan, resultCached)
  | .checked plan _ _ resultCached => some (plan, resultCached)
  | .answered a => some (a.plan, a.resultCached)
  | _ => none

/-- The key of the plan that a request has put in, if it has. -/
def Stage.plansPut (digest : Key.Digest) (question : String) (stage : Stage) : List String :=
  (stage.plan?.filter (!·.2)).toList.map fun _ => Key.plan digest question

/-- The key of the result that a request has put in, if it has. -/
def Stage.resultsPut (digest : Key.Digest) (tenant : String) (stage : Stage) : List String :=
  (stage.result?.filter (!·.2)).toList.map fun made => Key.result digest tenant made.1.toValue

/-- In order, and with the settings that the caches were built with. -/
structure Caches.Orderly [Clock τ] (clock : Timeline τ) (now : τ) (c built : Caches τ Result) :
    Prop where
  plans : c.plans.Orderly clock now
  results : c.results.Orderly clock now
  spans : c.planTtl = built.planTtl ∧ c.resultTtl = built.resultTtl
  rooms : c.plans.maxSize = built.plans.maxSize ∧ c.results.maxSize = built.results.maxSize

namespace Service

variable [Clock τ] (clock : Timeline τ) (v : Service σ)

/-- Requests, each after the one before has ended, and the keys of the plans and of the results that
they have put in. However a request ends, it leaves the caches as it had them last. -/
inductive Goes (s : ServiceState τ σ) (t : τ) :
    List String → List String → ServiceState τ σ → τ → Prop where
  | start : Goes s t [] [] s t
  | request {plans results : List String} {s₁ s₂ s₃ : ServiceState τ σ} {t₁ t₂ : τ}
    {question tenant : String} {goal : Goal} {stage : Stage}
    (before : Goes s t plans results s₁ t₁)
    (made : Reaches clock v question tenant goal s₁ t₁ stage s₂ t₂)
    (same : s₃.caches = s₂.caches) :
      Goes s t (stage.plansPut v.digest question ++ plans)
        (stage.resultsPut v.digest tenant ++ results) s₃ t₂

/-- Whatever requests one after the other lead to from caches as they were built, these being
cleared now and then. -/
inductive Sequential (built : Caches τ Result) : ServiceState τ σ → τ → Prop where
  | start {s : ServiceState τ σ} {t : τ} (reads : clock.Reading t) (new : s.caches = built) :
      Sequential built s t
  | requests {plans results : List String} {s s' : ServiceState τ σ} {t t' : τ}
    (before : Sequential built s t) (goes : Goes clock v s t plans results s' t') :
      Sequential built s' t'
  | clear {s s' : ServiceState τ σ} {t : τ} (before : Sequential built s t)
    (cleared : s'.caches = s.caches.clear.2) : Sequential built s' t

variable {clock v} {question tenant : String} {goal : Goal}

/-- What has been put in stays on the list. -/
theorem puts_of_moves {o : Occasion τ} {s s' : ServiceState τ σ} {stage stage' : Stage}
    (moves : v.Moves o question tenant goal s stage stage' s') :
    stage.plansPut v.digest question ⊆ stage'.plansPut v.digest question ∧
      stage.resultsPut v.digest tenant ⊆ stage'.resultsPut v.digest tenant := by
  cases moves with
  | planKept | planUnkept | draft | storePlan =>
    exact ⟨List.nil_subset _, List.nil_subset _⟩
  | resultKept | resultUnkept | compute | storeResult =>
    exact ⟨List.Subset.refl _, List.nil_subset _⟩
  | stay | check | narrate | answered | failed =>
    exact ⟨List.Subset.refl _, List.Subset.refl _⟩

theorem Reaches.before {s s₁ : ServiceState τ σ} {t t₁ u : τ} {stage : Stage}
    (h : Reaches clock v question tenant goal s t stage s₁ t₁) (after : clock.Before t₁ u) :
    clock.Before t u := by
  induction h generalizing u with
  | received => exact after
  | next _ _ _ _ later _ ih => exact ih (later.trans after)

end Service

namespace Caches.Orderly

variable [Clock τ] {clock : Timeline τ} {now t : τ} {c built : Caches τ Result}

theorem empty (planTtl resultTtl : τ) (maxSize : Int) :
    Orderly clock now (.empty planTtl resultTtl maxSize) (.empty planTtl resultTtl maxSize) :=
  ⟨.of_nil rfl, .of_nil rfl, ⟨rfl, rfl⟩, ⟨rfl, rfl⟩⟩

theorem clear (h : Orderly clock now c built) : Orderly clock now c.clear.2 built :=
  ⟨.of_nil rfl, .of_nil rfl, h.spans, h.rooms⟩

theorem later (h : Orderly clock t c built) (later : clock.Before t now) :
    Orderly clock now c built :=
  ⟨h.plans.later later, h.results.later later, h.spans, h.rooms⟩

theorem getPlan (h : Orderly clock now c built) (digest : Key.Digest) (question : String) :
    Orderly clock now (c.getPlan digest now question).2 built :=
  ⟨h.plans.get _, h.results, h.spans,
    h.rooms.imp_left (c.plans.size_get_le now (Key.plan digest question)).2.trans⟩

theorem getResult (h : Orderly clock now c built) (digest : Key.Digest) (tenant : String)
    (plan : Plan) : Orderly clock now (c.getResult digest now tenant plan).2 built :=
  ⟨h.plans, h.results.get _, h.spans, h.rooms.imp_right
    (c.results.size_get_le now (Key.result digest tenant plan.toValue)).2.trans⟩

theorem setPlan (h : Orderly clock now c built) (reads : clock.Reading now) (digest : Key.Digest)
    (question : String) (plan : Plan) :
    Orderly clock now (c.setPlan digest now question plan) built :=
  ⟨h.plans.set reads _ _ _, h.results, h.spans,
    h.rooms.imp_left (c.plans.roomFor_kept (Key.plan digest question)).1.trans⟩

theorem setResult (h : Orderly clock now c built) (reads : clock.Reading now) (digest : Key.Digest)
    (tenant : String) (plan : Plan) (result : Result) :
    Orderly clock now (c.setResult digest now tenant plan result) built :=
  ⟨h.plans, h.results.set reads _ _ _, h.spans, h.rooms.imp_right
    (c.results.roomFor_kept (Key.result digest tenant plan.toValue)).1.trans⟩

end Caches.Orderly

namespace Service

variable [Clock τ] {clock : Timeline τ} {v : Service σ} {question tenant : String} {goal : Goal}
variable {built : Caches τ Result}

theorem orderly_of_moves {o : Occasion τ} {s s' : ServiceState τ σ} {stage stage' : Stage}
    (h : s.caches.Orderly clock o.now built) (reads : clock.Reading o.now)
    (moves : v.Moves o question tenant goal s stage stage' s') :
    s'.caches.Orderly clock o.now built := by
  cases moves with
  | planKept | planUnkept => exact h.getPlan _ _
  | storePlan => exact h.setPlan reads _ _ _
  | resultKept | resultUnkept => exact h.getResult _ _ _
  | storeResult => exact h.setResult reads _ _ _ _
  | draft | stay | compute | check | narrate | answered | failed => exact h

theorem Reaches.orderly {s s₁ : ServiceState τ σ} {t t₁ : τ} {stage : Stage}
    (h : Reaches clock v question tenant goal s t stage s₁ t₁)
    (orderly : s.caches.Orderly clock t built) : s₁.caches.Orderly clock t₁ built := by
  induction h with
  | received => exact orderly
  | @next _ _ s₁ _ _ _ _ model _ later goes ih =>
    have drifted : Caches.Orderly clock _ { s₁ with model }.caches built := ih
    exact orderly_of_moves (drifted.later later) later.right (moves_of_next goes)

theorem Goes.orderly {s s' : ServiceState τ σ} {t t' : τ} {plans results : List String}
    (h : Goes clock v s t plans results s' t') (orderly : s.caches.Orderly clock t built) :
    s'.caches.Orderly clock t' built := by
  induction h with
  | start => exact orderly
  | request _ made same ih =>
    rw [same]
    exact made.orderly ih

/-- Whatever requests one after the other lead to, the caches are in order. -/
theorem Sequential.orderly {s : ServiceState τ σ} {t : τ} (h : Sequential clock v built s t)
    (new : ∀ u, clock.Reading u → built.Orderly clock u built) :
    s.caches.Orderly clock t built := by
  induction h with
  | start reads same =>
    rw [same]
    exact new _ reads
  | requests _ goes ih => exact goes.orderly ih
  | clear _ cleared ih =>
    rw [cleared]
    exact ih.clear

/-! ### Whole questions -/

theorem alone_failed (v : Service σ) (o : Occasion τ) (n : Nat) (failure : Failure)
    (s : ServiceState τ σ) : v.alone o n ⟨question, tenant, goal, .failed failure⟩ s =
      (⟨question, tenant, goal, .failed failure⟩, s) := by
  induction n with
  | zero => rfl
  | succ n ih => exact ih

/-- So many stages at one reading of the clock, with nothing between them. -/
theorem Reaches.alone {source : Source} {o : Occasion τ} (n : Nat) {s s₁ : ServiceState τ σ}
    {t t₁ : τ} {stage : Stage} (h : Reaches clock v question tenant goal s t stage s₁ t₁)
    (later : clock.Before t₁ o.now) {r : Request} {s' : ServiceState τ σ}
    (ends : Service.alone { v with source } o n ⟨question, tenant, goal, stage⟩ s₁ = (r, s')) :
    ∃ stage' s₂ t₂, Reaches clock v question tenant goal s t stage' s₂ t₂ ∧
      (t₂ = t₁ ∨ t₂ = o.now) ∧ s'.caches = s₂.caches ∧
      (r.stage = stage' ∨ ∃ failure, r.stage = .failed failure) := by
  induction n generalizing stage s₁ t₁ with
  | zero =>
    cases ends
    exact ⟨stage, _, t₁, h, Or.inl rfl, rfl, Or.inl rfl⟩
  | succ n ih =>
    rw [Service.alone, advance] at ends
    cases goes : Service.next { v with source } o ⟨question, tenant, goal, stage⟩ s₁ with
    | mk found s₂ =>
      rw [goes] at ends
      cases found with
      | error failure =>
        cases (alone_failed _ o n failure s₂).symm.trans ends
        exact ⟨stage, s₁, t₁, h, Or.inl rfl, caches_of_failure goes, Or.inr ⟨failure, rfl⟩⟩
      | ok stage' =>
        obtain ⟨stage'', s₃, t₃, reached, times, rest⟩ :=
          ih (h.next source s₁.model o later goes) (.refl later.right) ends
        exact ⟨stage'', s₃, t₃, reached, Or.inr (times.elim id id), rest⟩

/-- Whole questions are among the requests. -/
theorem Goes.ask {s s₁ s' : ServiceState τ σ} {t t₁ : τ} {plans results : List String}
    (h : Goes clock v s t plans results s₁ t₁) (source : Source) {o : Occasion τ}
    (later : clock.Before t₁ o.now) {found : Except Failure Answer}
    (asked : Service.ask { v with source } o question tenant s₁ = (found, s')) :
    ∃ (stage : Stage) (t' : τ), (t' = t₁ ∨ t' = o.now) ∧
      Goes clock v s t (stage.plansPut v.digest question ++ plans)
        (stage.resultsPut v.digest tenant ++ results) s' t' ∧
      ∀ a, found = .ok a → stage = .answered a := by
  rcases World.ask_cases { v with source } o question tenant s₁ with ⟨failure, spent⟩ | answers
  · cases spent.symm.trans asked
    have made : Reaches clock v question tenant .answer s₁ t₁ .received s₁ t₁ := .received
    exact ⟨.received, t₁, Or.inl rfl, h.request made rfl, fun a answer => by cases answer⟩
  · obtain ⟨ends, leaves⟩ := alone_answer { v with source } o question tenant s₁
    rw [answers] at asked
    rw [asked] at ends leaves
    cases run : Service.alone { v with source } o 8 ⟨question, tenant, .answer, .received⟩ s₁ with
    | mk r s₂ =>
      rw [run] at ends leaves
      obtain rfl : s₂ = s' := leaves
      change r.stage = lastStage found at ends
      obtain ⟨stage, s₃, t₂, reached, times, caches, stages⟩ := Reaches.alone 8 .received later run
      refine ⟨stage, t₂, times, h.request reached caches, fun a answer => ?_⟩
      rw [ends, answer] at stages
      rcases stages with same | ⟨failure, other⟩
      · exact same.symm
      · cases other

theorem Sequential.ask {s s' : ServiceState τ σ} {t : τ} (h : Sequential clock v built s t)
    (source : Source) {o : Occasion τ} (later : clock.Before t o.now)
    {found : Except Failure Answer}
    (asked : Service.ask { v with source } o question tenant s = (found, s')) :
    ∃ t', clock.Before t' o.now ∧ Sequential clock v built s' t' := by
  obtain ⟨stage, t', times, goes, -⟩ := Goes.ask .start source later asked
  refine ⟨t', ?_, h.requests goes⟩
  rcases times with rfl | rfl
  · exact later
  · exact .refl later.right

end Service
end MetricDesk
