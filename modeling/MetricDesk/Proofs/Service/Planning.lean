import MetricDesk.Proofs.Cache.Words
import MetricDesk.Proofs.Plan.Sentence
import MetricDesk.Proofs.Service.Retention

/-! Plans that are kept, with the built-in rules. A plan is kept under the words of its question.
Main statement: `plan_of_asked`, a plan that is returned is the one that the rules make of some
question that was asked in the same words, which is the question's own but for the title as far as
both are sentences. -/
namespace MetricDesk

namespace World

variable {τ σ : Type}

/-- A plan is what the rules make of some question that was asked. -/
def Drafted (w : World τ σ) (digest : Key.Digest) (key : String) (plan : Plan) : Prop :=
  ∃ asked tenant, w.Asked asked tenant ∧ key = Key.plan digest asked ∧
    Draft.checked asked = .ok plan

/-- A plan that a request is about to keep is that of its own question. -/
def Own (question : String) : Stage → Prop
  | .drafted plan => Draft.checked question = .ok plan
  | _ => True

structure Planned (digest : Key.Digest) (w : World τ σ) : Prop where
  plans : w.state.caches.plans.Holds (w.Drafted digest)
  requests : ∀ r ∈ w.requests, Own r.question r.stage

theorem Drafted.mono {w w' : World τ σ} (asked : ∀ q t, w.Asked q t → w'.Asked q t)
    {digest : Key.Digest} {key : String} {plan : Plan} (h : w.Drafted digest key plan) :
    w'.Drafted digest key plan := by
  obtain ⟨question, tenant, before, made⟩ := h
  exact ⟨question, tenant, asked question tenant before, made⟩

variable [Clock τ]

theorem planned_of_moves {v : Service σ} (rules : v.planner.mode = .rules) {o : Occasion τ}
    {w : World τ σ} {r : Request} {stage : Stage} {s : ServiceState τ σ} (h : Planned v.digest w)
    (made : r ∈ w.requests)
    (moves : v.Moves o r.question r.tenant r.goal w.state r.stage stage s) :
    s.caches.plans.Holds (w.Drafted v.digest) ∧ Own r.question stage := by
  have mine := h.requests r made
  have asked : w.Asked r.question r.tenant := ⟨r, made, rfl, rfl⟩
  obtain ⟨question, tenant, goal, here⟩ := r
  cases moves with
  | planKept | planUnkept => exact ⟨Cache.get_holds h.plans _ _, trivial⟩
  | draft made =>
    rw [Planner.plan_rules rules] at made
    exact ⟨h.plans, (Prod.mk.inj made).1⟩
  | storePlan => exact ⟨Cache.set_holds h.plans _ _ ⟨question, tenant, asked, rfl, mine⟩, trivial⟩
  | answered | failed | stay | resultKept | resultUnkept | compute | storeResult | check
  | narrate => exact ⟨h.plans, trivial⟩

theorem kept_planned {v : Service σ} (rules : v.planner.mode = .rules) :
    Kept v (Planned (τ := τ) v.digest) where
  start _ _ _ _ := ⟨Cache.holds_empty _ _, by rintro r ⟨⟩⟩
  arrive {w} h question tenant goal :=
    ⟨h.plans.mono fun _ _ drafted => drafted.mono (w.asked_arrive question tenant goal),
      forall_arrive h.requests trivial⟩
  move {_ source _ _ _ _ _} h here moves := by
    obtain ⟨plans, own⟩ :=
      planned_of_moves (v := { v with source }) rules h (List.mem_of_getElem? here) moves
    exact ⟨plans.mono fun _ _ drafted => drafted.mono (asked_set here rfl),
      forall_set h.requests own⟩
  fail h here _ same _ := by
    refine ⟨?_, forall_set h.requests trivial⟩
    rw [same]
    exact h.plans.mono fun _ _ drafted => drafted.mono (asked_set here rfl)
  lose h plans _ := ⟨h.plans.of_subset plans, h.requests⟩
  drift h _ := ⟨h.plans, h.requests⟩

/-- A request for a plan returns what is kept under its key, or what is made of it now. -/
theorem plan_cases {v : Service σ} {o : Occasion τ} {question : String} {s s' : ServiceState τ σ}
    {plan : Plan} {cached : Bool} (h : v.plan o question s = (.ok (plan, cached), s')) :
    (cached = true ∧ (s.caches.getPlan v.digest o.now question).1 = some plan) ∨
      (cached = false ∧ ∃ model,
        v.planner.plan question o.told.iso s.model = (.ok plan, model)) := by
  rcases Service.parts_of_plan h with ⟨kept, found, -⟩ | ⟨unkept, -, model, made, -⟩
  · exact Or.inl ⟨kept, found⟩
  · exact Or.inr ⟨unkept, model, made⟩

/-- With the built-in rules a returned plan is what they make of a question in the same words: the
question itself, or one that was asked before. Where both are sentences only the title may be that
of the other. -/
theorem plan_of_asked {v : Service σ} {w : World τ σ} (rules : v.planner.mode = .rules)
    (reached : Reachable v w) {o : Occasion τ} {question : String} {plan : Plan} {cached : Bool}
    {s : ServiceState τ σ} (returned : v.plan o question w.state = (.ok (plan, cached), s))
    (faithful : Key.Faithful v.digest
      (Key.planText question :: w.requests.map fun r => Key.planText r.question)) :
    ∃ asked, (asked = question ∨ (cached = true ∧ ∃ tenant, w.Asked asked tenant)) ∧
      Key.normalized asked = Key.normalized question ∧ Draft.checked asked = .ok plan ∧
      (Draft.Sentence asked → Draft.Sentence question →
        Draft.checked question = .ok { plan with game := Title.of question }) := by
  rcases plan_cases returned with ⟨kept, found⟩ | ⟨-, model, made⟩
  · obtain ⟨e, stored, rfl⟩ := Cache.mem_of_get found
    obtain ⟨asked, tenant, before, key, made⟩ :=
      (reached.kept (kept_planned rules)).plans _ e stored
    have words : Key.normalized asked = Key.normalized question := by
      obtain ⟨r, mem, same, -⟩ := before
      have listed : Key.planText asked ∈
          Key.planText question :: w.requests.map fun r => Key.planText r.question :=
        List.mem_cons_of_mem _ (List.mem_map.mpr ⟨r, mem, by rw [same]⟩)
      exact Key.planText_injective
        (faithful.separate _ listed _ List.mem_cons_self key.symm)
    exact ⟨asked, Or.inr ⟨kept, tenant, before⟩, words, made,
      fun one other => Draft.checked_of_sentence one other words made⟩
  · rw [Planner.plan_rules rules] at made
    have own : Draft.checked question = .ok plan := (Prod.mk.inj made).1
    exact ⟨question, Or.inl rfl, rfl, own,
      fun sentence _ => Draft.checked_of_sentence sentence sentence rfl own⟩

/-- A title in quotes, asked when nothing is kept. -/
def raiders : World Number Unit :=
  ((start (.int 60) (.int 60) 10 ()).arrive "revenue for \"Space Raiders\"" "" .plan).proceedTimes
    (.ruled fun _ => .rows []) noon 0 3

/-- The same words without quotes name no title, and yet are given the plan of the title. -/
theorem raiders_plan_of_asked : ∃ plan s,
    (Service.ruled fun _ => .rows []).plan noon "revenue for space raiders" raiders.state =
        (.ok (plan, true), s) ∧ plan.game = "Space Raiders" ∧
      (∃ asked, Key.normalized asked = Key.normalized "revenue for space raiders" ∧
        Draft.checked asked = .ok plan) ∧
      ∃ own, Draft.checked "revenue for space raiders" = .ok own ∧ own.game = "all" := by
  have reached : Reachable (.ruled fun _ => .rows []) raiders :=
    ((Reachable.start _ _ _ _).next (.arrive _ _ _ _)).proceedTimes _ _ _
  have faithful : Key.Faithful Sha256.ofText (Key.planText "revenue for space raiders" ::
      raiders.requests.map fun r => Key.planText r.question) :=
    { length := fun a b => by rw [Sha256.length_ofText, Sha256.length_ofText]
      separate := by decide +kernel }
  have hit : ((Service.ruled fun _ => .rows []).plan noon "revenue for space raiders"
      raiders.state).1.toOption.any (fun out => out.2 && out.1.game == "Space Raiders") = true := by
    decide +kernel
  have alone : (Draft.checked "revenue for space raiders").toOption.any
      (·.game == "all") = true := by
    decide +kernel
  cases returned : (Service.ruled fun _ => .rows []).plan noon "revenue for space raiders"
      raiders.state with
  | mk outcome s =>
    rw [returned] at hit
    cases outcome with
    | error failure => cases hit
    | ok out =>
      obtain ⟨plan, cached⟩ := out
      obtain ⟨rfl, game⟩ := Bool.and_eq_true_iff.mp hit
      obtain ⟨asked, -, words, made, -⟩ := plan_of_asked rfl reached returned faithful
      cases own : Draft.checked "revenue for space raiders" with
      | error failure => rw [own] at alone; cases alone
      | ok mine =>
        rw [own] at alone
        exact ⟨plan, s, rfl, beq_iff_eq.mp game, ⟨asked, words, made⟩, mine, rfl,
          beq_iff_eq.mp alone⟩

end World
end MetricDesk
