import MetricDesk.Proofs.Cache.Entries
import MetricDesk.Proofs.Result.Acceptance
import MetricDesk.Proofs.Service.World

/-! What the caches retain. Results are stored before they are checked. Main statement:
`stored_accepted_iff`, a stored result passes the check iff it conforms, and one that does not fails
every request that finds it. -/
namespace MetricDesk

namespace Planner

/-- Whoever made the candidate, a plan has passed its check. -/
theorem valid_of_plan {σ : Type} {p : Planner σ} {question day : String} {s s' : σ} {plan : Plan}
    (h : p.plan question day s = (.ok plan, s')) : plan.Valid := by
  have bind : p.plan question day s = match p.candidate question day s with
      | (.ok candidate, s') => (Plan.validate candidate, s')
      | (.error failure, s') => (.error failure, s') := by
    change (match p.candidate question day s with
      | (found, s') => ExceptT.bindCont (m := StateM σ)
          (fun candidate => liftM (Plan.validate candidate)) found s') = _
    cases p.candidate question day s with
    | mk found s' => cases found <;> rfl
  rw [bind] at h
  split at h
  · next candidate s' _ => exact Plan.valid_of_validate (Prod.mk.inj h).1
  · cases h

end Planner

namespace World

variable {τ σ : Type}

/-- A request was made for a tenant with a question. -/
def Asked (w : World τ σ) (question tenant : String) : Prop :=
  ∃ r ∈ w.requests, r.question = question ∧ r.tenant = tenant

/-- A result is what an execution of a valid plan came to, for a request that was made. -/
structure Derived (w : World τ σ) (result : Result) : Prop where
  asked : w.Asked result.question result.tenant
  valid : result.plan.Valid
  executed : ∃ source today, Execution.execute source result.question result.tenant result.plan
    today = .done result

/-- What a request has in its hands. -/
def Carries (w : World τ σ) : Stage → Prop
  | .drafted plan => plan.Valid
  | .planned plan _ => plan.Valid
  | .missing plan _ => plan.Valid
  | .computed _ _ result => w.Derived result
  | _ => True

structure Retained (w : World τ σ) : Prop where
  plans : w.state.caches.plans.Holds fun _ plan => plan.Valid
  results : w.state.caches.results.Holds fun _ result => w.Derived result
  requests : ∀ r ∈ w.requests, w.Carries r.stage

theorem Derived.mono {w w' : World τ σ} (asked : ∀ q t, w.Asked q t → w'.Asked q t)
    {result : Result} (h : w.Derived result) : w'.Derived result :=
  ⟨asked _ _ h.asked, h.valid, h.executed⟩

theorem Carries.mono {w w' : World τ σ} (asked : ∀ q t, w.Asked q t → w'.Asked q t)
    {stage : Stage} (h : w.Carries stage) : w'.Carries stage := by
  cases stage with
  | computed => exact Derived.mono asked h
  | _ => exact h

theorem asked_arrive (w : World τ σ) (question tenant : String) (goal : Goal) (q t : String)
    (h : w.Asked q t) : (w.arrive question tenant goal).Asked q t := by
  obtain ⟨r, mem, same⟩ := h
  exact ⟨r, List.mem_append_left _ mem, same⟩

/-- A request keeps its question and its tenant from stage to stage. -/
theorem asked_set {w w' : World τ σ} {i : Nat} {r : Request} {stage : Stage}
    (here : w.requests[i]? = some r) (set : w'.requests = w.requests.set i { r with stage })
    (q t : String) (h : w.Asked q t) : w'.Asked q t := by
  obtain ⟨r', mem, rfl, rfl⟩ := h
  obtain ⟨j, there⟩ := List.getElem?_of_mem mem
  unfold Asked
  rw [set]
  by_cases same : i = j
  · subst same
    obtain rfl := Option.some.inj (here.symm.trans there)
    have found : (w.requests.set i { r with stage })[i]? = some { r with stage } := by
      rw [List.getElem?_set_self']
      simp [here]
    exact ⟨_, List.mem_of_getElem? found, rfl, rfl⟩
  · have found : (w.requests.set i { r with stage })[j]? = some r' := by
      rw [List.getElem?_set_ne same, there]
    exact ⟨r', List.mem_of_getElem? found, rfl, rfl⟩

theorem retained_of_requests {w w' : World τ σ} (h : w.Retained)
    (same : w'.requests = w.requests)
    (plans : w'.state.caches.plans.Holds fun _ plan => plan.Valid)
    (results : w'.state.caches.results.Holds fun _ result => w.Derived result) : w'.Retained := by
  have kept (q t : String) (asked : w.Asked q t) : w'.Asked q t := by
    unfold Asked
    rwa [same]
  refine ⟨plans, results.mono fun _ _ derived => derived.mono kept, ?_⟩
  rw [same]
  exact fun r mem => (h.requests r mem).mono kept

variable [Clock τ]

/-- Every stage that does not fail leaves behind, and in the request's hands, what is valid. -/
theorem retained_of_moves {v : Service σ} {o : Occasion τ} {w : World τ σ} {r : Request}
    {stage : Stage} {s : ServiceState τ σ} (h : w.Retained) (made : r ∈ w.requests)
    (moves : v.Moves o r.question r.tenant r.goal w.state r.stage stage s) :
    (s.caches.plans.Holds fun _ plan => plan.Valid) ∧
      (s.caches.results.Holds fun _ result => w.Derived result) ∧ w.Carries stage := by
  have mine := h.requests r made
  have asked : w.Asked r.question r.tenant := ⟨r, made, rfl, rfl⟩
  obtain ⟨question, tenant, goal, here⟩ := r
  cases moves with
  | planKept found =>
    obtain ⟨e, mem, rfl⟩ := Cache.mem_of_get found
    exact ⟨Cache.get_holds h.plans _ _, h.results, h.plans _ e mem⟩
  | planUnkept => exact ⟨Cache.get_holds h.plans _ _, h.results, trivial⟩
  | draft made => exact ⟨h.plans, h.results, Planner.valid_of_plan made⟩
  | storePlan => exact ⟨Cache.set_holds h.plans _ _ mine, h.results, mine⟩
  | stay => exact ⟨h.plans, h.results, mine⟩
  | resultKept => exact ⟨h.plans, Cache.get_holds h.results _ _, trivial⟩
  | resultUnkept => exact ⟨h.plans, Cache.get_holds h.results _ _, mine⟩
  | @compute plan planCached result made =>
    obtain ⟨rfl, rfl, rfl⟩ := Execution.execute_done made
    exact ⟨h.plans, h.results, ⟨asked, mine, _, _, made⟩⟩
  | storeResult => exact ⟨h.plans, Cache.set_holds h.results _ _ mine, trivial⟩
  | check | narrate | answered | failed => exact ⟨h.plans, h.results, trivial⟩

theorem kept_retained (v : Service σ) : Kept v (Retained (τ := τ)) where
  start _ _ _ _ := ⟨Cache.holds_empty _ _, Cache.holds_empty _ _, by rintro r ⟨⟩⟩
  arrive {w} h question tenant goal := by
    have kept := w.asked_arrive question tenant goal
    exact ⟨h.plans, h.results.mono fun _ _ derived => derived.mono kept,
      forall_arrive (fun r mem => (h.requests r mem).mono kept) trivial⟩
  move h here moves := by
    obtain ⟨plans, results, carries⟩ := retained_of_moves h (List.mem_of_getElem? here) moves
    refine ⟨plans, results.mono fun _ _ derived => derived.mono (asked_set here rfl), ?_⟩
    exact forall_set (fun r' mem => (h.requests r' mem).mono (asked_set here rfl))
      (carries.mono (asked_set here rfl))
  fail h here _ same _ := by
    refine ⟨by rw [same]; exact h.plans, ?_, forall_set (fun r' mem => ?_) trivial⟩
    · rw [same]
      exact h.results.mono fun _ _ derived => derived.mono (asked_set here rfl)
    · exact (h.requests r' mem).mono (asked_set here rfl)
  lose h plans results :=
    retained_of_requests h rfl (h.plans.of_subset plans) (h.results.of_subset results)
  drift h _ := retained_of_requests h rfl h.plans h.results

theorem reachable_retained {v : Service σ} {w : World τ σ} (h : Reachable v w) : w.Retained :=
  h.kept (kept_retained v)

/-! ### Requests that find a stored result -/

/-- A request that finds a result which does not pass the check ends with its violations. -/
theorem answer_refused {v : Service σ} {o : Occasion τ} {question tenant : String}
    {s s' : ServiceState τ σ} {plan : Plan} {planCached : Bool} {stored : Result}
    {failure : Failure} (enabled : v.isEnabled = true)
    (planned : v.plan o question s = (.ok (plan, planCached), s'))
    (found : (s'.caches.getResult v.digest o.now tenant plan).1 = some stored)
    (refused : Result.validate stored.toValue = .error failure) :
    (v.answer o question tenant s).1 = .error failure := by
  have kept : v.result o question tenant plan s' =
      (.ok (stored, true),
        { s' with caches := (s'.caches.getResult v.digest o.now tenant plan).2 }) := by
    rw [Service.result, Service.bind_apply, Service.lookUpResult]
    simp only [found]
    rfl
  simp only [Service.answer, enabled, Bool.not_true, Bool.false_eq_true, if_false,
    Service.bind_apply, planned, kept, refused]
  rfl

/-- A stored result is that of a request that was made. It passes the check iff it conforms; where
it does not, whoever finds it fails, whatever the question. -/
theorem stored_accepted_iff {v : Service σ} {w : World τ σ} (reached : Reachable v w)
    {key : String} {e : Entry τ Result} (stored : (key, e) ∈ w.state.caches.results.entries) :
    w.Asked e.value.question e.value.tenant ∧
      ((∃ checked, Result.validate e.value.toValue = .ok checked) ↔ e.value.Conforms) ∧
      ∀ (source : Source) (o : Occasion τ) (question tenant : String) (plan : Plan)
        (planCached : Bool) (s : ServiceState τ σ), v.isEnabled = true →
        Service.plan { v with source } o question w.state = (.ok (plan, planCached), s) →
        (s.caches.getResult v.digest o.now tenant plan).1 = some e.value →
        ¬ e.value.Conforms → ∃ found, found ≠ [] ∧
          (Service.answer { v with source } o question tenant w.state).1 =
            .error (.schema found) := by
  obtain ⟨asked, valid, source, today, executed⟩ :=
    (reachable_retained reached).results key e stored
  obtain ⟨table, attribution⟩ := Execution.rows_of_execute executed
  obtain ⟨accepts, refuses⟩ := Result.validate_iff valid table attribution
  refine ⟨asked, ⟨?_, fun conforms => ⟨_, accepts conforms⟩⟩, ?_⟩
  · rintro ⟨checked, passed⟩
    by_contra not
    obtain ⟨found, -, refused⟩ := refuses not
    rw [refused] at passed
    cases passed
  · intro source o question tenant plan planCached s enabled planned found not
    obtain ⟨violations, some, refused⟩ := refuses not
    exact ⟨violations, some, answer_refused enabled planned found refused⟩

/-- Planning leaves the stored results alone. -/
theorem results_of_plan {v : Service σ} {o : Occasion τ} {question : String}
    {s s' : ServiceState τ σ} {out : Plan × Bool} (h : v.plan o question s = (.ok out, s')) :
    s'.caches.results = s.caches.results := by
  rcases Service.parts_of_plan h with ⟨-, -, rfl⟩ | ⟨-, -, model, -, rfl⟩ <;> rfl

/-- The built-in rules over an empty warehouse; texts are keys as they stand. -/
def plainKeys : Service Unit := { Service.ruled (fun _ => .rows []) with digest := id }

/-- A question of three blanks, asked when nothing is stored. -/
def blanks : World Number Unit :=
  ((start (.int 60) (.int 60) 10 ()).arrive "   " "game-1" .answer).proceedTimes plainKeys noon 0 8

/-- The result of the three blanks is stored and refused, and with it another question of the same
tenant. -/
theorem blanks_stored : ∃ key e, (key, e) ∈ blanks.state.caches.results.entries ∧
    e.value.question = "   " ∧ ¬ (∃ checked, Result.validate e.value.toValue = .ok checked) ∧
      ∃ found, found ≠ [] ∧
        (plainKeys.answer noon "revenue" "game-1" blanks.state).1 = .error (.schema found) := by
  have reached : Reachable plainKeys blanks :=
    ((Reachable.start _ _ _ _).next (.arrive _ _ _ _)).proceedTimes _ _ _
  have hit : (plainKeys.plan noon "revenue" blanks.state).1.toOption.any (fun out =>
      ((plainKeys.plan noon "revenue" blanks.state).2.caches.getResult id noon.now "game-1"
        out.1).1.any fun result => result.question == "   ") = true := by decide +kernel
  cases planned : plainKeys.plan noon "revenue" blanks.state with
  | mk outcome s =>
    rw [planned] at hit
    cases outcome with
    | error failure => cases hit
    | ok out =>
      change (s.caches.getResult id noon.now "game-1" out.1).1.any _ = true at hit
      obtain ⟨result, found, asked⟩ := (Option.any_eq_true _ _).mp hit
      rw [beq_iff_eq] at asked
      obtain ⟨e, stored, rfl⟩ := Cache.mem_of_get found
      rw [results_of_plan planned] at stored
      obtain ⟨-, accepted, fails⟩ := stored_accepted_iff reached stored
      have refused : ¬ e.value.Conforms := by
        intro conforms
        have filled := conforms.question
        rw [asked] at filled
        exact absurd filled (by decide +kernel)
      exact ⟨_, e, stored, asked, fun passed => refused (accepted.mp passed),
        fails _ noon "revenue" "game-1" out.1 out.2 s rfl planned found refused⟩

end World
end MetricDesk
