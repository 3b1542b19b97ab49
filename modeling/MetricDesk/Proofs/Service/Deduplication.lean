import MetricDesk.Proofs.Service.Sequence
import MetricDesk.Service.Build

/-! Nothing is worked out twice. Main statements: `Goes.outlasts`, what an answer has put in stays
whatever else is asked, as long as it lives and there is room for the rest; and `ask_deduplicated`,
until then the question is answered from the caches, in whatever words that come to the same key. -/
namespace MetricDesk

variable {τ σ : Type}

/-- The plan and the result of a first answer, as they are kept. -/
structure Stored (τ : Type) where
  planKey : String
  plan : Entry τ Plan
  resultKey : String
  result : Entry τ Result

namespace Stored

def ofAnswer (digest : Key.Digest) (built : Caches τ Result) (now : τ) (question tenant : String)
    (plan : Plan) (result : Result) : Stored τ where
  planKey := Key.plan digest question
  plan := ⟨plan, now, built.planTtl⟩
  resultKey := Key.result digest tenant plan.toValue
  result := ⟨result, now, built.resultTtl⟩

/-- There is room for the plans and the results that were put in since. -/
structure Fits (k : Stored τ) (built : Caches τ Result) (plans results : List String) : Prop where
  plans : Cache.Fits built.plans.maxSize k.planKey plans
  results : Cache.Fits built.results.maxSize k.resultKey results

/-- Some of them may not have been put in yet. -/
theorem Fits.of_subset {k : Stored τ} {built : Caches τ Result}
    {plans results fewPlans fewResults morePlans moreResults : List String}
    (h : k.Fits built (morePlans ++ plans) (moreResults ++ results))
    (subsets : fewPlans ⊆ morePlans ∧ fewResults ⊆ moreResults) :
    k.Fits built (fewPlans ++ plans) (fewResults ++ results) := by
  have fewer {few more all : List String} (subset : few ⊆ more) : few ++ all ⊆ more ++ all :=
    List.append_subset.mpr
      ⟨List.subset_append_of_subset_left all subset, List.subset_append_right more all⟩
  exact ⟨h.plans.mono (fewer subsets.1), h.results.mono (fewer subsets.2)⟩

variable [Clock τ]

structure Alive (k : Stored τ) (now : τ) : Prop where
  plan : k.plan.isExpired now = false
  result : k.result.isExpired now = false

structure Outlasts (clock : Timeline τ) (k : Stored τ) (c : Caches τ Result)
    (plans results : List String) : Prop where
  plans : c.plans.Outlasts clock k.planKey k.plan plans
  results : c.results.Outlasts clock k.resultKey k.result results

variable {clock : Timeline τ} {k : Stored τ} {now : τ} {plans results : List String}

theorem Alive.before {u : τ} (h : k.Alive u) (before : clock.Before now u) : k.Alive now :=
  ⟨before.alive h.plan, before.alive h.result⟩

namespace Outlasts

variable {c : Caches τ Result} {digest : Key.Digest} {question tenant : String} {plan : Plan}

theorem getPlan (h : Outlasts clock k c plans results) (alive : k.Alive now) :
    Outlasts clock k (c.getPlan digest now question).2 plans results :=
  ⟨h.plans.get alive.plan _, h.results⟩

theorem getResult (h : Outlasts clock k c plans results) (alive : k.Alive now) :
    Outlasts clock k (c.getResult digest now tenant plan).2 plans results :=
  ⟨h.plans, h.results.get alive.result _⟩

theorem getPlan_eq (h : Outlasts clock k c plans results) (alive : k.Alive now)
    (same : Key.plan digest question = k.planKey) :
    (c.getPlan digest now question).1 = some k.plan.value := by
  have found := h.plans.get_eq alive.plan
  rwa [← same] at found

theorem getResult_eq (h : Outlasts clock k c plans results) (alive : k.Alive now)
    (same : Key.result digest tenant plan.toValue = k.resultKey) :
    (c.getResult digest now tenant plan).1 = some k.result.value := by
  have found := h.results.get_eq alive.result
  rwa [← same] at found

end Outlasts

/-- What a request is about to put in does not stand there already. -/
def Apart (k : Stored τ) (digest : Key.Digest) (question tenant : String) : Stage → Prop
  | .unplanned | .drafted _ => Key.plan digest question ≠ k.planKey
  | .missing plan _ | .computed plan _ _ =>
    Key.result digest tenant plan.toValue ≠ k.resultKey
  | _ => True

end Stored

/-- What a request has in its hands is what is kept, and comes to the same result. -/
def Answer.Kept (a : Answer) : Stage → Prop
  | .received => True
  | .planned plan planCached => plan = a.plan ∧ planCached = true
  | .resulted plan planCached raw resultCached =>
    plan = a.plan ∧ planCached = true ∧ Result.validate raw.toValue = .ok a.result ∧
      resultCached = true
  | .checked plan planCached result resultCached =>
    plan = a.plan ∧ planCached = true ∧ result = a.result ∧ resultCached = true
  | .answered b =>
    b.plan = a.plan ∧ b.planCached = true ∧ b.result = a.result ∧ b.resultCached = true
  | _ => False

namespace Service

variable [Clock τ] {clock : Timeline τ} {v : Service σ} {question tenant : String} {goal : Goal}
variable {built : Caches τ Result} {k : Stored τ} {plans results : List String}

/-! ### Other requests -/

/-- One stage of any request. -/
theorem outlasts_of_moves {source : Source} {o : Occasion τ} {s s' : ServiceState τ σ}
    {stage stage' : Stage}
    (h : k.Outlasts clock s.caches (stage.plansPut v.digest question ++ plans)
      (stage.resultsPut v.digest tenant ++ results))
    (apart : k.Apart v.digest question tenant stage) (orderly : s.caches.Orderly clock o.now built)
    (reads : clock.Reading o.now) (alive : k.Alive o.now)
    (fits : k.Fits built (stage'.plansPut v.digest question ++ plans)
      (stage'.resultsPut v.digest tenant ++ results))
    (moves : Moves { v with source } o question tenant goal s stage stage' s') :
    k.Outlasts clock s'.caches (stage'.plansPut v.digest question ++ plans)
        (stage'.resultsPut v.digest tenant ++ results) ∧
      k.Apart v.digest question tenant stage' := by
  cases moves with
  | planKept => exact ⟨h.getPlan alive, trivial⟩
  | planUnkept absent =>
    refine ⟨h.getPlan alive, fun same => ?_⟩
    rw [h.getPlan_eq alive same] at absent
    cases absent
  | draft => exact ⟨h, apart⟩
  | @storePlan plan =>
    have fits := fits.plans
    rw [← orderly.rooms.1] at fits
    exact ⟨⟨h.plans.set reads fits apart plan _, h.results⟩, trivial⟩
  | resultKept => exact ⟨h.getResult alive, trivial⟩
  | resultUnkept absent =>
    refine ⟨h.getResult alive, fun same => ?_⟩
    rw [h.getResult_eq alive same] at absent
    cases absent
  | compute => exact ⟨h, apart⟩
  | @storeResult plan planCached result =>
    have fits := fits.results
    rw [← orderly.rooms.2] at fits
    exact ⟨⟨h.plans, h.results.set reads fits apart result _⟩, trivial⟩
  | stay | check | narrate | answered | failed => exact ⟨h, trivial⟩

theorem Reaches.outlasts {s s₁ : ServiceState τ σ} {t t₁ u : τ} {stage : Stage}
    (h : Reaches clock v question tenant goal s t stage s₁ t₁)
    (before : k.Outlasts clock s.caches plans results) (orderly : s.caches.Orderly clock t built)
    (after : clock.Before t₁ u) (alive : k.Alive u)
    (fits : k.Fits built (stage.plansPut v.digest question ++ plans)
      (stage.resultsPut v.digest tenant ++ results)) :
    k.Outlasts clock s₁.caches (stage.plansPut v.digest question ++ plans)
        (stage.resultsPut v.digest tenant ++ results) ∧
      k.Apart v.digest question tenant stage := by
  induction h generalizing u with
  | received => exact ⟨before, trivial⟩
  | @next stage stage' s₁ s₂ t₁ reached source model o later goes ih =>
    have moves := moves_of_next goes
    have puts := puts_of_moves moves
    obtain ⟨outlasts, apart⟩ := ih (later.trans after) alive (fits.of_subset puts)
    have drifted : Caches.Orderly clock o.now { s₁ with model }.caches built :=
      (reached.orderly orderly).later later
    exact outlasts_of_moves (s := { s₁ with model }) outlasts apart drifted later.right
      (alive.before after) fits moves

theorem Goes.outlasts {s s' : ServiceState τ σ} {t t' u : τ}
    (h : Goes clock v s t plans results s' t')
    (before : k.Outlasts clock s.caches [] []) (orderly : s.caches.Orderly clock t built)
    (after : clock.Before t' u) (alive : k.Alive u) (fits : k.Fits built plans results) :
    k.Outlasts clock s'.caches plans results := by
  induction h generalizing u with
  | start => exact before
  | request goes made same ih =>
    -- What is alive at the end was so all along, and there were no more keys than at the end.
    have outlasts := ih (made.before after) alive
      (fits.of_subset ⟨List.nil_subset _, List.nil_subset _⟩)
    rw [same]
    exact (made.outlasts outlasts (goes.orderly orderly) after alive fits).1

/-! ### The first answer -/

/-- A result that was not kept is put in. -/
theorem result_fresh {o : Occasion τ} {s s' : ServiceState τ σ} {plan : Plan} {result : Result}
    (made : v.result o question tenant plan s = (.ok (result, false), s')) :
    (s.caches.getResult v.digest o.now tenant plan).1 = none ∧
      s'.caches = (s.caches.getResult v.digest o.now tenant plan).2.setResult v.digest o.now tenant
        plan result := by
  simp only [Service.result, bind_apply, lookUpResult] at made
  cases found : (s.caches.getResult v.digest o.now tenant plan).1 with
  | some plan =>
    rw [found] at made
    cases made
  | none =>
    rw [found] at made
    obtain ⟨raw, s₂, computed, rest⟩ := bind_ok made
    have same := congrArg (fun done => done.2.caches) computed
    rw [caches_of_makeResult] at same
    cases rest
    exact ⟨rfl, congrArg (·.setResult v.digest o.now tenant plan result) same.symm⟩

/-- What an answer is made of. -/
theorem parts_of_answer {o : Occasion τ} {s s' : ServiceState τ σ} {a : Answer}
    (answered : v.answer o question tenant s = (.ok a, s')) :
    ∃ s₁ s₂ raw, v.plan o question s = (.ok (a.plan, a.planCached), s₁) ∧
      v.result o question tenant a.plan s₁ = (.ok (raw, a.resultCached), s₂) ∧
      Result.validate raw.toValue = .ok a.result ∧ s'.caches = s₂.caches := by
  cases enabled : v.isEnabled with
  | false =>
    rw [answer, enabled] at answered
    cases answered
  | true =>
    simp only [answer, enabled, Bool.not_true, Bool.false_eq_true, if_false] at answered
    obtain ⟨⟨plan, planCached⟩, s₁, planned, unresulted⟩ := bind_ok answered
    dsimp only at unresulted
    obtain ⟨⟨raw, resultCached⟩, s₂, computed, unchecked⟩ := bind_ok unresulted
    dsimp only at unchecked
    obtain ⟨checked, s₃, passed, untold⟩ := bind_ok unchecked
    obtain ⟨narration, s₄, told, done⟩ := bind_ok untold
    have same := congrArg (fun done => done.2.caches) told
    cases valid : Result.validate raw.toValue with
    | error failure =>
      rw [valid] at passed
      cases passed
    | ok result =>
      rw [valid] at passed
      cases passed
      cases done
      exact ⟨s₁, s₂, raw, planned, computed, valid, same.symm⟩

/-- A first answer has put in its plan and its result, behind all else. -/
theorem outlasts_of_answer {o : Occasion τ} {s s' : ServiceState τ σ} {a : Answer}
    (orderly : s.caches.Orderly clock o.now built) (reads : clock.Reading o.now)
    (answered : v.answer o question tenant s = (.ok a, s')) (planMissed : a.planCached = false)
    (resultMissed : a.resultCached = false) :
    ∃ raw, Result.validate raw.toValue = .ok a.result ∧
      (Stored.ofAnswer v.digest built o.now question tenant a.plan raw).Outlasts clock s'.caches
        [] [] := by
  obtain ⟨s₁, s₂, raw, planned, computed, passed, same⟩ := parts_of_answer answered
  rw [planMissed] at planned
  rw [resultMissed] at computed
  obtain ⟨kept, -⟩ | ⟨-, noPlan, model, -, rfl⟩ := parts_of_plan planned
  · cases kept
  obtain ⟨noResult, put⟩ := result_fresh computed
  rw [same, put]
  have first := orderly.plans.outlasts_of_missed reads noPlan a.plan (some s.caches.planTtl)
  have second := orderly.results.outlasts_of_missed reads noResult raw (some s.caches.resultTtl)
  unfold Stored.ofAnswer
  rw [← orderly.spans.1, ← orderly.spans.2]
  exact ⟨raw, passed, first, second⟩

/-! ### Later answers -/

/-- The answer from what is kept: only the narration is new. -/
def retold (v : Service σ) (o : Occasion τ) (question tenant : String) (a : Answer) :
    Work τ σ Answer := fun s =>
  let looked := (s.caches.getPlan v.digest o.now question).2
  let (told, model) := v.narrator.narrate a.result .null s.model
  (told.map (⟨·, a.result, a.plan, true, true⟩),
    { s with caches := (looked.getResult v.digest o.now tenant a.plan).2, model })

/-- From a reading of the clock on, while it lasts, a question is answered from what is kept. -/
structure Deduplicated (clock : Timeline τ) (v : Service σ) (a : Answer) (question tenant : String)
    (s : ServiceState τ σ) (t : τ) (lasts : τ → Prop) : Prop where
  /-- Whatever plans and narrates, and whatever the source holds. -/
  whole (w : Service σ) (o : Occasion τ) : w.digest = v.digest → w.budget = v.budget →
    clock.Before t o.now → lasts o.now → w.ask o question tenant s =
      if w.isEnabled then w.retold o question tenant a s
      else (.error (.disabled (.key Client.Provider.openai.keyName)), s)
  /-- Each stage at a reading of its own: no plan is made, and nothing is asked of the source. -/
  staged {stage : Stage} {s' : ServiceState τ σ} {t' u : τ} :
    Reaches clock v question tenant .answer s t stage s' t' → clock.Before t' u → lasts u →
      a.Kept stage ∧ s'.queries = s.queries

theorem answer_retold {o : Occasion τ} {s : ServiceState τ σ} {a : Answer} {raw : Result}
    (enabled : v.isEnabled = true)
    (plan : (s.caches.getPlan v.digest o.now question).1 = some a.plan)
    (result : ((s.caches.getPlan v.digest o.now question).2.getResult v.digest o.now tenant
      a.plan).1 = some raw)
    (passed : Result.validate raw.toValue = .ok a.result) :
    v.answer o question tenant s = v.retold o question tenant a s := by
  have planned : v.plan o question s =
      (.ok (a.plan, true), { s with caches := (s.caches.getPlan v.digest o.now question).2 }) := by
    rw [Service.plan, bind_apply, lookUpPlan]
    simp only [plan]
    rfl
  have computed : v.result o question tenant a.plan
      { s with caches := (s.caches.getPlan v.digest o.now question).2 } = (.ok (raw, true),
        { s with caches := ((s.caches.getPlan v.digest o.now question).2.getResult v.digest o.now
          tenant a.plan).2 }) := by
    rw [Service.result, bind_apply, lookUpResult]
    simp only [result]
    rfl
  have checked (s : ServiceState τ σ) :
      (liftM (Result.validate raw.toValue) : Work τ σ Result) s = (.ok a.result, s) := by
    rw [passed]
    rfl
  simp only [answer, enabled, Bool.not_true, Bool.false_eq_true, if_false, bind_apply, planned,
    computed, checked, withModel, retold]
  cases v.narrator.narrate a.result .null s.model with
  | mk told model => cases told <;> rfl

/-- One stage of a later request. -/
theorem kept_of_moves {source : Source} {o : Occasion τ} {s s' : ServiceState τ σ}
    {stage stage' : Stage} {a : Answer} (h : k.Outlasts clock s.caches plans results)
    (alive : k.Alive o.now) (samePlan : Key.plan v.digest question = k.planKey)
    (sameResult : Key.result v.digest tenant a.plan.toValue = k.resultKey)
    (plan : k.plan.value = a.plan)
    (accepted : Result.validate k.result.value.toValue = .ok a.result) (kept : a.Kept stage)
    (moves : Moves { v with source } o question tenant .answer s stage stage' s') :
    k.Outlasts clock s'.caches plans results ∧ a.Kept stage' ∧ s'.queries = s.queries := by
  cases moves with
  | planKept found =>
    have same := (h.getPlan_eq alive samePlan).symm.trans found
    exact ⟨h.getPlan alive, ⟨(Option.some.inj same).symm.trans plan, rfl⟩, rfl⟩
  | planUnkept absent =>
    have same := (h.getPlan_eq alive samePlan).symm.trans absent
    cases same
  | resultKept found =>
    obtain ⟨rfl, rfl⟩ := kept
    have same := (h.getResult_eq alive sameResult).symm.trans found
    obtain rfl := Option.some.inj same
    exact ⟨h.getResult alive, ⟨rfl, rfl, accepted, rfl⟩, rfl⟩
  | resultUnkept absent =>
    obtain ⟨rfl, rfl⟩ := kept
    have same := (h.getResult_eq alive sameResult).symm.trans absent
    cases same
  | check passed =>
    obtain ⟨rfl, rfl, accepted, rfl⟩ := kept
    exact ⟨h, ⟨rfl, rfl, Except.ok.inj (passed.symm.trans accepted), rfl⟩, rfl⟩
  | narrate => exact ⟨h, kept, rfl⟩
  | answered => exact ⟨h, kept, rfl⟩
  | stay notAnswer => exact absurd rfl notAnswer
  | draft | storePlan | compute | storeResult | failed => cases kept

theorem Reaches.kept {s s' : ServiceState τ σ} {t t' u : τ} {stage : Stage} {a : Answer}
    (h : Reaches clock v question tenant .answer s t stage s' t')
    (outlasts : k.Outlasts clock s.caches plans results) (after : clock.Before t' u)
    (alive : k.Alive u) (samePlan : Key.plan v.digest question = k.planKey)
    (sameResult : Key.result v.digest tenant a.plan.toValue = k.resultKey)
    (plan : k.plan.value = a.plan)
    (accepted : Result.validate k.result.value.toValue = .ok a.result) :
    k.Outlasts clock s'.caches plans results ∧ a.Kept stage ∧ s'.queries = s.queries := by
  induction h generalizing u with
  | received => exact ⟨outlasts, trivial, rfl⟩
  | @next stage stage' s₁ s₂ t₁ reached source model o later goes ih =>
    obtain ⟨still, kept, queries⟩ := ih (later.trans after) alive
    obtain ⟨still, kept, same⟩ := kept_of_moves (s := { s₁ with model }) still
      (alive.before after) samePlan sameResult plan accepted kept (moves_of_next goes)
    exact ⟨still, kept, same.trans queries⟩

/-- Where one question got an answer the budget lets every question be answered. -/
theorem ask_eq_answer {w : Service σ} {o₁ o : Occasion τ} {q₁ t₁ : String}
    {s₁ s' s : ServiceState τ σ} {a : Answer} (answered : v.ask o₁ q₁ t₁ s₁ = (.ok a, s'))
    (same : w.budget = v.budget) : w.ask o question tenant s = w.answer o question tenant s := by
  unfold Service.ask at answered ⊢
  rw [same]
  cases given : v.budget with
  | none => rfl
  | some budget =>
    rw [given] at answered
    simp only at answered ⊢
    by_cases spent : budget.le (.int 0) = true
    · rw [if_pos spent] at answered
      cases answered
    · rw [if_neg spent] at answered ⊢
      cases size : budget.toDouble with
      | error fault =>
        rw [size] at answered
        cases answered
      | ok seconds => rfl

/-- It is enough that what the answer has put in is still there. -/
theorem deduplicated_of_outlasts {o : Occasion τ} {q : String} {s₀ s₁ s : ServiceState τ σ} {t : τ}
    {a : Answer} {raw : Result} {lasts : τ → Prop} (answered : v.ask o q tenant s₀ = (.ok a, s₁))
    (accepted : Result.validate raw.toValue = .ok a.result)
    (alive : ∀ u, clock.Reading u → lasts u →
      (Stored.ofAnswer v.digest built o.now q tenant a.plan raw).Alive u)
    (outlasts : ∀ u, clock.Before t u → lasts u →
      (Stored.ofAnswer v.digest built o.now q tenant a.plan raw).Outlasts clock s.caches plans
        results)
    (same : Key.normalized question = Key.normalized q) :
    Deduplicated clock v a question tenant s t lasts := by
  have key : Key.plan v.digest question = Key.plan v.digest q := by rw [Key.plan, same]; rfl
  refine ⟨fun w o' digest budget later lasts => ?_, fun reached after lasts => ?_⟩
  · have still := outlasts _ later lasts
    have alive := alive _ later.right lasts
    have plan : (s.caches.getPlan w.digest o'.now question).1 = some a.plan := by
      rw [digest]
      exact still.getPlan_eq alive key
    have result : ((s.caches.getPlan w.digest o'.now question).2.getResult w.digest o'.now tenant
        a.plan).1 = some raw := by
      rw [digest]
      exact (still.getPlan alive).getResult_eq alive rfl
    rw [ask_eq_answer answered budget]
    cases enabled : w.isEnabled with
    | false =>
      rw [answer, enabled]
      rfl
    | true => exact answer_retold enabled plan result accepted
  · have still := outlasts _ (reached.before after) lasts
    exact (reached.kept still after (alive _ after.right lasts) key rfl rfl accepted).2

/-- A question that was answered, with neither its plan nor its result kept, is not worked on again:
while no more time has passed than either lives, and the other keys that were put in leave room,
every question in words of the same key gets the same data from the caches, whatever else was asked
in between. -/
theorem ask_deduplicated {v : Service σ} {settings : Settings} {s₀ s₁ s : ServiceState Number σ}
    {t₀ t : Number} {o : Occasion Number} {question tenant again : String} {a : Answer}
    {plans results : List String}
    (reached : Sequential .doubles v (cachesFor settings) s₀ t₀)
    (later : Timeline.doubles.Before t₀ o.now)
    (answered : v.ask o question tenant s₀ = (.ok a, s₁))
    (planMissed : a.planCached = false) (resultMissed : a.resultCached = false)
    (goes : Goes .doubles v s₁ o.now plans results s t)
    (fewPlans : Cache.Fits settings.cacheSize (Key.plan v.digest question) plans)
    (fewResults : Cache.Fits settings.cacheSize (Key.result v.digest tenant a.plan.toValue) results)
    (same : Key.normalized again = Key.normalized question) :
    Deduplicated .doubles v a again tenant s t fun now =>
      ((now.exact - o.now.exact : ℚ) : WithBot (WithTop ℚ)) ≤
        min settings.planTtl.place settings.resultTtl.place := by
  have new (u : Number) (_ : Timeline.doubles.Reading u) :
      (cachesFor settings).Orderly .doubles u (cachesFor settings) := .empty _ _ _
  have before : s₀.caches.Orderly .doubles o.now (cachesFor settings) :=
    (reached.orderly new).later later
  have whole := (ask_eq_answer answered rfl).symm.trans answered
  obtain ⟨raw, accepted, first⟩ :=
    outlasts_of_answer before later.right whole planMissed resultMissed
  have alive (u : Number) (reads : Timeline.doubles.Reading u)
      (within : ((u.exact - o.now.exact : ℚ) : WithBot (WithTop ℚ)) ≤
        min settings.planTtl.place settings.resultTtl.place) :
      (Stored.ofAnswer v.digest (cachesFor settings) o.now question tenant a.plan raw).Alive u :=
    ⟨Timeline.alive_of_place_le rfl later.right reads (le_min_iff.mp within).1,
      Timeline.alive_of_place_le rfl later.right reads (le_min_iff.mp within).2⟩
  obtain ⟨t', ended, asked⟩ := reached.ask v.source later answered
  have after : s₁.caches.Orderly .doubles o.now (cachesFor settings) :=
    (asked.orderly new).later ended
  exact deduplicated_of_outlasts answered accepted alive (fun u begun within =>
    goes.outlasts first after begun (alive u begun.right within) ⟨fewPlans, fewResults⟩) same

/-- Room for two entries in each cache. -/
def twofold : Settings := { Settings.default with cacheSize := 2 }

/-- A question in other words, after another question that took the other place. -/
theorem twofold_deduplicated : ∃ a s₁ b s t,
    World.plainKeys.ask (atSecond 1) "revenue" "game-1" ⟨cachesFor twofold, (), []⟩ =
        (.ok a, s₁) ∧
      World.plainKeys.ask (atSecond 2) "users" "game-1" s₁ = (.ok b, s) ∧
      b.planCached = false ∧ b.resultCached = false ∧
      Deduplicated .doubles World.plainKeys a "Revenue?" "game-1" s t fun now =>
        ((now.exact - (atSecond 1).now.exact : ℚ) : WithBot (WithTop ℚ)) ≤
          min twofold.planTtl.place twofold.resultTtl.place := by
  have first := before_atSecond 1 (by decide) 0 (by decide)
  have second := before_atSecond 2 (by decide) 1 (by decide)
  have few (key : String) (put : List String) (short : put.length ≤ 1) : Cache.Fits 2 key put := by
    have fewer := Finset.card_le_card (Finset.erase_subset key put.toFinset)
    have distinct := put.toFinset_card_le
    unfold Cache.Fits
    omega
  let new : ServiceState Number Unit := ⟨cachesFor twofold, (), []⟩
  have reached : Sequential .doubles World.plainKeys (cachesFor twofold) new (atSecond 0).now :=
    .start first.left rfl
  obtain ⟨fresh, freshToo⟩ :
      (World.plainKeys.ask (atSecond 1) "revenue" "game-1" new).1.toOption.any (fun a =>
        !a.planCached && !a.resultCached) = true ∧
      (World.plainKeys.ask (atSecond 2) "users" "game-1" (World.plainKeys.ask (atSecond 1) "revenue"
        "game-1" new).2).1.toOption.any (fun b => !b.planCached && !b.resultCached) = true := by
    decide +kernel
  cases answered : World.plainKeys.ask (atSecond 1) "revenue" "game-1" new with
  | mk outcome s₁ =>
    rw [answered] at fresh freshToo
    cases outcome with
    | error failure => cases fresh
    | ok a =>
      cases answeredToo : World.plainKeys.ask (atSecond 2) "users" "game-1" s₁ with
      | mk outcome s =>
        simp only [answeredToo] at freshToo
        cases outcome with
        | error failure => cases freshToo
        | ok b =>
          have missed : (!a.planCached && !a.resultCached) = true := fresh
          have missedToo : (!b.planCached && !b.resultCached) = true := freshToo
          rw [Bool.and_eq_true_iff, Bool.not_eq_true', Bool.not_eq_true'] at missed missedToo
          have begun : Goes .doubles World.plainKeys s₁ (atSecond 1).now [] [] s₁
              (atSecond 1).now := .start
          obtain ⟨stage, t, -, goes, answer⟩ := begun.ask World.plainKeys.source second answeredToo
          obtain rfl := answer b rfl
          refine ⟨a, s₁, b, s, t, rfl, answeredToo, missedToo.1, missedToo.2, ?_⟩
          exact ask_deduplicated reached first answered missed.1
            missed.2 goes (few _ _ (by simp [Stage.plansPut, Stage.plan?, missedToo]))
            (few _ _ (by simp [Stage.resultsPut, Stage.result?, missedToo])) (by decide +kernel)

end Service
end MetricDesk
