import MetricDesk.Proofs.Analysis.Execution
import MetricDesk.Proofs.Cache.Entries
import MetricDesk.Proofs.Result.Wire
import MetricDesk.Proofs.Service.World

/-! Tenants are kept apart. Main statement: `answer_isolated`, however requests are interleaved, the
answer to a tenant's request shows the result of an execution for that tenant and the request's own
plan, and nothing that the source holds for others has any part in it. -/
namespace MetricDesk

/-- The record of an execution says what took place. -/
structure Performed.Sound (x : Performed) : Prop where
  executed : Execution.execute x.source x.question x.tenant x.plan x.today = .done x.result
  fetched : x.fetched = Execution.queriesOn x.plan x.tenant x.today

namespace World

variable {τ σ : Type}

/-- A result was computed for the tenant and the plan. -/
def Computed (w : World τ σ) (tenant : String) (plan : Plan) (result : Result) : Prop :=
  ∃ x ∈ w.performed, x.tenant = tenant ∧ x.plan = plan ∧ x.result = result

/-- What a request has in its hands was computed for its own tenant and plan. -/
def Backs (w : World τ σ) (tenant : String) : Stage → Prop
  | .computed plan _ result => w.Computed tenant plan result
  | .resulted plan _ result _ => w.Computed tenant plan result
  | .checked plan _ result _ =>
    ∃ raw, w.Computed tenant plan raw ∧ Result.validate raw.toValue = .ok result
  | .answered a => ∃ raw, w.Computed tenant a.plan raw ∧ Result.validate raw.toValue = .ok a.result
  | _ => True

/-- A cached result was computed for the tenant and the plan that its key was made of. -/
def Keeps (w : World τ σ) (digest : Key.Digest) (key : String) (result : Result) : Prop :=
  ∃ x ∈ w.performed, x.result = result ∧ key = Key.result digest x.tenant x.plan.toValue ∧
    ∀ text ∈ Key.texts digest x.tenant x.plan, text ∈ w.digested

structure Isolated (digest : Key.Digest) (w : World τ σ) : Prop where
  sound : ∀ x ∈ w.performed, x.Sound
  entries : w.state.caches.results.Holds (w.Keeps digest)
  requests : ∀ r ∈ w.requests, w.Backs r.tenant r.stage

theorem Computed.mono {w w' : World τ σ} (grown : ∀ x ∈ w.performed, x ∈ w'.performed)
    {tenant : String} {plan : Plan} {result : Result} (h : w.Computed tenant plan result) :
    w'.Computed tenant plan result := by
  obtain ⟨x, performed, same⟩ := h
  exact ⟨x, grown x performed, same⟩

theorem Backs.mono {w w' : World τ σ} (grown : ∀ x ∈ w.performed, x ∈ w'.performed)
    {tenant : String} {stage : Stage} (h : w.Backs tenant stage) : w'.Backs tenant stage := by
  cases stage with
  | computed => exact Computed.mono grown h
  | resulted => exact Computed.mono grown h
  | checked | answered =>
    obtain ⟨raw, computed, passed⟩ := h
    exact ⟨raw, computed.mono grown, passed⟩
  | _ => trivial

theorem Keeps.mono {w w' : World τ σ} (grown : ∀ x ∈ w.performed, x ∈ w'.performed)
    (texts : ∀ text ∈ w.digested, text ∈ w'.digested) {digest : Key.Digest} {key : String}
    {result : Result} (h : w.Keeps digest key result) : w'.Keeps digest key result := by
  obtain ⟨x, performed, same, made, digested⟩ := h
  exact ⟨x, grown x performed, same, made, fun text mem => texts text (digested text mem)⟩

/-- What stands under the key of a tenant and a plan was computed for them. -/
theorem Keeps.computed {w : World τ σ} {digest : Key.Digest} {tenant : String} {plan : Plan}
    {result : Result} (h : w.Keeps digest (Key.result digest tenant plan.toValue) result)
    (faithful : Key.Faithful digest w.digested)
    (asked : ∀ text ∈ Key.texts digest tenant plan, text ∈ w.digested) :
    w.Computed tenant plan result := by
  obtain ⟨x, performed, same, made, digested⟩ := h
  have apart : Key.Faithful digest
      (Key.texts digest tenant plan ++ Key.texts digest x.tenant x.plan) :=
    faithful.mono fun text mem => (List.mem_append.mp mem).elim (asked text) (digested text)
  obtain ⟨tenantSame, planSame⟩ := Key.result_injective apart made
  exact ⟨x, performed, tenantSame.symm, planSame.symm, same⟩

variable [Clock τ]

/-- A stage that a request has gone through, seen from the world that it leads to. -/
structure Passed (v : Service σ) (w w' : World τ σ) (r : Request) (stage : Stage) : Prop where
  sound : ∀ x ∈ w'.performed, x ∈ w.performed ∨ x.Sound
  entries : w'.state.caches.results.Holds (w'.Keeps v.digest)
  backs : w'.Backs r.tenant stage

/-- Every stage that does not fail leaves the tenants apart. -/
theorem passed_of_moves {v : Service σ} {o : Occasion τ} {w w' : World τ σ} {r : Request}
    {stage : Stage} (h : Isolated v.digest w) (mine : w.Backs r.tenant r.stage)
    (moves : v.Moves o r.question r.tenant r.goal w.state r.stage stage w'.state)
    (digested : w'.digested = w.digested ++ r.digests v.digest)
    (performed : w'.performed = w.performed ++
      r.performs v o stage (w'.state.queries.drop w.state.queries.length))
    (faithful : Key.Faithful v.digest w'.digested) : Passed v w w' r stage := by
  have grown : ∀ x ∈ w.performed, x ∈ w'.performed := by
    rw [performed]
    exact fun _ => List.mem_append_left _
  have longer : ∀ text ∈ w.digested, text ∈ w'.digested := by
    rw [digested]
    exact fun _ => List.mem_append_left _
  have kept : w.state.caches.results.Holds (w'.Keeps v.digest) :=
    h.entries.mono fun key result keeps => keeps.mono grown longer
  have backs : w'.Backs r.tenant r.stage := mine.mono grown
  obtain ⟨question, tenant, goal, here⟩ := r
  generalize reached : w'.state = s' at moves performed
  have asked : ∀ text ∈ Request.digests v.digest ⟨question, tenant, goal, here⟩,
      text ∈ w'.digested := by
    rw [digested]
    exact fun _ => List.mem_append_right _
  -- Where nothing is executed the record stays as it is.
  have same (quiet : Request.performs v o ⟨question, tenant, goal, here⟩ stage
      (s'.queries.drop w.state.queries.length) = []) :
      ∀ x ∈ w'.performed, x ∈ w.performed ∨ x.Sound := by
    rw [performed, quiet, List.append_nil]
    exact fun _ mem => Or.inl mem
  cases moves with
  | planKept | planUnkept | draft | storePlan | stay | failed =>
    exact ⟨same rfl, by rw [reached]; exact kept, trivial⟩
  | answered => exact ⟨same rfl, by rw [reached]; exact kept, backs⟩
  | resultUnkept =>
    exact ⟨same rfl, by rw [reached]; exact Cache.get_holds kept _ _, trivial⟩
  | resultKept found =>
    refine ⟨same rfl, by rw [reached]; exact Cache.get_holds kept _ _, ?_⟩
    obtain ⟨e, mem, rfl⟩ := Cache.mem_of_get found
    exact (kept _ e mem).computed faithful asked
  | @compute plan planCached result made =>
    have record := performed
    simp only [Request.performs, List.drop_left] at record
    refine ⟨?_, by rw [reached]; exact kept, ?_⟩
    · rw [record]
      intro x mem
      rcases List.mem_append.mp mem with old | new
      · exact Or.inl old
      · rw [List.mem_singleton.mp new]
        exact Or.inr ⟨made, rfl⟩
    · refine ⟨⟨question, tenant, plan, o.today, v.source,
        Execution.queriesOn plan tenant o.today, result⟩, ?_, rfl, rfl, rfl⟩
      rw [record]
      exact List.mem_append_right _ List.mem_cons_self
  | storeResult =>
    refine ⟨same rfl, ?_, backs⟩
    obtain ⟨x, mem, rfl, rfl, rfl⟩ := backs
    rw [reached]
    exact Cache.set_holds kept _ _ ⟨x, mem, rfl, rfl, asked⟩
  | check passed => exact ⟨same rfl, by rw [reached]; exact kept, _, backs, passed⟩
  | narrate told =>
    exact ⟨same rfl, by rw [reached]; exact kept, backs⟩

/-- As long as the digest tells the texts of keys apart, so are the tenants. -/
theorem kept_isolated (v : Service σ) :
    Kept v fun w : World τ σ => Key.Faithful v.digest w.digested → Isolated v.digest w where
  start _ _ _ _ _ := ⟨by rintro x ⟨⟩, Cache.holds_empty _ _, by rintro r ⟨⟩⟩
  arrive h _ _ _ faithful :=
    ⟨(h faithful).sound, (h faithful).entries, forall_arrive (h faithful).requests trivial⟩
  move {w source o _ r stage _} h here moves faithful := by
    have before := h (faithful.mono fun _ => List.mem_append_left _)
    have mine := before.requests r (List.mem_of_getElem? here)
    have passed : Passed { v with source } w _ r stage :=
      passed_of_moves (o := o) before mine moves rfl rfl faithful
    refine ⟨fun x mem => ?_, passed.entries, forall_set (fun r' mem => ?_) passed.backs⟩
    · exact (passed.sound x mem).elim (before.sound x) id
    · exact (before.requests r' mem).mono fun _ => List.mem_append_left _
  fail h _ _ same _ faithful := by
    have before := h (faithful.mono fun _ => List.mem_append_left _)
    refine ⟨before.sound, ?_, forall_set (fun r' mem => ?_) trivial⟩
    · simp only [same]
      intro key e mem
      refine Keeps.mono ?_ ?_ (before.entries key e mem)
      · exact fun _ mem => mem
      · exact fun _ => List.mem_append_left _
    · exact (before.requests r' mem).mono fun _ mem => mem
  lose h _ results faithful :=
    ⟨(h faithful).sound, (h faithful).entries.of_subset results, (h faithful).requests⟩
  drift h _ faithful := ⟨(h faithful).sound, (h faithful).entries, (h faithful).requests⟩

theorem reachable_isolated {v : Service σ} {w : World τ σ} (h : Reachable v w)
    (faithful : Key.Faithful v.digest w.digested) : Isolated v.digest w :=
  h.kept (kept_isolated v) faithful

/-- What is shown for a tenant and a plan is what an execution for them came to, which asked the
source for nothing of other tenants. -/
structure Shows (x : Performed) (t : String) (p : Plan) (r : Result) : Prop where
  tenant : x.tenant = t
  plan : x.plan = p
  fetched : x.fetched = Execution.queriesOn p t x.today
  own : ∀ q ∈ x.fetched, q.tenant = t
  /-- The same comes of every source that agrees on the tenant's own queries. -/
  executed : ∀ source : Source, (∀ q, q.tenant = t → source q = x.source q) →
    Execution.execute source x.question t p x.today = .done x.result
  summary : r.summary = x.result.summary
  series : r.series = x.result.series
  table : r.table = x.result.table.map Value.wireFields
  attribution : r.attribution = x.result.attribution.map Value.wireFields
  confidence : r.confidence = x.result.confidence
  wire : r.toValue = x.result.toValue

theorem shows_of_sound {x : Performed} (h : x.Sound) :
    Shows x x.tenant x.plan x.result.wired where
  tenant := rfl
  plan := rfl
  fetched := h.fetched
  own := by
    rw [h.fetched]
    exact fun q => Execution.tenant_of_queriesOn
  executed source agree := by
    rw [← h.executed]
    exact Execution.execute_congr fun q mem => agree q (Execution.tenant_of_queriesOn mem)
  summary := rfl
  series := rfl
  table := rfl
  attribution := rfl
  confidence := rfl
  wire := x.result.wired_toValue

/-- However requests are interleaved, an answer names the tenant that asked and the plan that was
used, and shows what one of the executions for them came to. -/
theorem answer_isolated {v : Service σ} {w : World τ σ} (reached : Reachable v w)
    (faithful : Key.Faithful v.digest w.digested) {r : Request} {a : Answer}
    (made : r ∈ w.requests) (answered : r.stage = .answered a) :
    a.result.tenant = r.tenant ∧ a.result.plan = a.plan ∧
      ∃ x ∈ w.performed, Shows x r.tenant a.plan a.result := by
  have isolated := reachable_isolated reached faithful
  have backs := isolated.requests r made
  rw [answered] at backs
  obtain ⟨raw, ⟨x, performed, tenant, plan, rfl⟩, passed⟩ := backs
  have sound := isolated.sound x performed
  obtain ⟨-, ofTenant, ofPlan⟩ := Execution.execute_done sound.executed
  have shows := shows_of_sound sound
  rw [Result.eq_wired_of_validate passed, ← tenant, ← plan]
  exact ⟨ofTenant, ofPlan, x, performed, shows⟩

/-- A question of a tenant with a bar in its name, answered from an empty warehouse. -/
def barred : World Number Unit :=
  ((start (.int 60) (.int 60) 10 ()).arrive "revenue" "game|1" .answer).proceedTimes
    (.ruled fun _ => .rows []) noon 0 8

theorem barred_isolated : ∃ r ∈ barred.requests, ∃ a, r.stage = .answered a ∧
    r.tenant = "game|1" ∧ a.result.tenant = r.tenant ∧ a.result.plan = a.plan ∧
      ∃ x ∈ barred.performed, Shows x r.tenant a.plan a.result := by
  have reached : Reachable (.ruled fun _ => .rows []) barred :=
    ((Reachable.start _ _ _ _).next (.arrive _ _ _ _)).proceedTimes _ _ _
  have faithful : Key.Faithful Sha256.ofText barred.digested :=
    { length := fun a b => by rw [Sha256.length_ofText, Sha256.length_ofText]
      separate := by decide +kernel }
  have answered : barred.requests.any (fun r =>
      r.tenant == "game|1" && r.stage.answer?.isSome) = true := by decide +kernel
  obtain ⟨r, made, found⟩ := List.any_eq_true.mp answered
  rw [Bool.and_eq_true, beq_iff_eq] at found
  obtain ⟨a, answer⟩ := Option.isSome_iff_exists.mp found.2
  have stage := Stage.eq_answered answer
  exact ⟨r, made, a, stage, found.1, answer_isolated reached faithful made stage⟩

end World
end MetricDesk
