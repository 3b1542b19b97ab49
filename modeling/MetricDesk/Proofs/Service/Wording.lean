import MetricDesk.Proofs.Service.Isolation
import MetricDesk.Proofs.Service.Retention

/-! Whose words an answer shows. A result keeps the question it was computed for, and is kept under
its tenant and its plan alone. Main statement: `answer_worded`, an answer shows its own question
where its result was computed for it, and otherwise the question of a request of the tenant for
which the same plan was executed. -/
namespace MetricDesk.World

variable {τ σ : Type}

/-- What a request has in its hands bears its own question, unless it was found. -/
def Bears (question : String) : Stage → Prop
  | .computed _ _ result => result.question = question
  | .resulted _ _ result resultCached => resultCached = false → result.question = question
  | .checked _ _ result resultCached => resultCached = false → result.question = question
  | .answered a => a.resultCached = false → a.result.question = question
  | _ => True

structure Worded (w : World τ σ) : Prop where
  performed : ∀ x ∈ w.performed, w.Asked x.question x.tenant
  requests : ∀ r ∈ w.requests, Bears r.question r.stage

/-- Only a request of the tenant has anything executed, for its own question. -/
theorem asked_of_performs {v : Service σ} {o : Occasion τ} {r : Request} {next : Stage}
    {fetched : List Query} {x : Performed} (mem : x ∈ r.performs v o next fetched) :
    x.question = r.question ∧ x.tenant = r.tenant := by
  unfold Request.performs at mem
  split at mem
  · rw [List.mem_singleton.mp mem]
    exact ⟨rfl, rfl⟩
  · cases mem

variable [Clock τ]

/-- Every stage that does not fail leaves the request with its own question. -/
theorem bears_of_moves {v : Service σ} {o : Occasion τ} {question tenant : String} {goal : Goal}
    {here stage : Stage} {s s' : ServiceState τ σ} (mine : Bears question here)
    (moves : v.Moves o question tenant goal s here stage s') : Bears question stage := by
  cases moves with
  | compute made => exact (Execution.execute_done made).1
  | storeResult => exact fun _ => mine
  | resultKept found => rintro ⟨⟩
  | check passed =>
    intro own
    rw [Result.eq_wired_of_validate passed]
    exact mine own
  | narrate | answered => exact mine
  | _ => trivial

theorem kept_worded (v : Service σ) : Kept v (Worded (τ := τ)) where
  start _ _ _ _ := ⟨by rintro x ⟨⟩, by rintro r ⟨⟩⟩
  arrive {w} h question tenant goal :=
    ⟨fun x mem => w.asked_arrive question tenant goal _ _ (h.performed x mem),
      forall_arrive h.requests trivial⟩
  move {w _ _ _ r _ _} h here moves := by
    have made := List.mem_of_getElem? here
    refine ⟨fun x mem => asked_set here rfl _ _ ?_,
      forall_set h.requests (bears_of_moves (h.requests r made) moves)⟩
    rcases List.mem_append.mp mem with old | new
    · exact h.performed x old
    · obtain ⟨question, tenant⟩ := asked_of_performs new
      exact ⟨r, made, question.symm, tenant.symm⟩
  fail h here _ _ _ :=
    ⟨fun x mem => asked_set here rfl _ _ (h.performed x mem), forall_set h.requests trivial⟩
  lose h _ _ := ⟨h.performed, h.requests⟩
  drift h _ := ⟨h.performed, h.requests⟩

/-- An answer whose result was computed for it shows its own question. Any other shows the question
of a request of the same tenant, for which the same plan was executed. -/
theorem answer_worded {v : Service σ} {w : World τ σ} (reached : Reachable v w)
    (faithful : Key.Faithful v.digest w.digested) {r : Request} {a : Answer}
    (made : r ∈ w.requests) (answered : r.stage = .answered a) :
    (a.resultCached = false → a.result.question = r.question) ∧
      w.Asked a.result.question r.tenant ∧
      ∃ x ∈ w.performed, x.question = a.result.question ∧ x.tenant = r.tenant ∧
        x.plan = a.plan := by
  have worded := reached.kept (kept_worded v)
  have bears := worded.requests r made
  have isolated := reachable_isolated reached faithful
  have backs := isolated.requests r made
  rw [answered] at bears backs
  obtain ⟨raw, ⟨x, performed, tenant, plan, rfl⟩, passed⟩ := backs
  obtain ⟨words, -, -⟩ := Execution.execute_done (isolated.sound x performed).executed
  have shown : a.result.question = x.question := by
    rw [Result.eq_wired_of_validate passed]
    exact words
  refine ⟨bears, ?_, x, performed, shown.symm, tenant, plan⟩
  rw [shown, ← tenant]
  exact worded.performed x performed

/-- A question, and another one with the same plan, of one tenant. -/
def echoed : World Number Unit :=
  ((((start (.int 60) (.int 60) 10 ()).arrive "revenue last week" "game-1" .answer).proceedTimes
    (.ruled fun _ => .rows []) noon 0 8).arrive "What did we earn last week?" "game-1"
    .answer).proceedTimes (.ruled fun _ => .rows []) noon 1 8

/-- The answer to the second question shows the first. -/
theorem echoed_worded : ∃ r ∈ echoed.requests, ∃ a, r.stage = .answered a ∧
    r.question = "What did we earn last week?" ∧ a.result.question = "revenue last week" ∧
      echoed.Asked a.result.question r.tenant ∧
      ∃ x ∈ echoed.performed, x.question = a.result.question ∧ x.tenant = r.tenant ∧
        x.plan = a.plan := by
  have reached : Reachable (.ruled fun _ => .rows []) echoed :=
    ((((Reachable.start _ _ _ _).next (.arrive _ _ _ _)).proceedTimes _ _ _).next
      (.arrive _ _ _ _)).proceedTimes _ _ _
  obtain ⟨separate, found⟩ : (∀ a ∈ echoed.digested, ∀ b ∈ echoed.digested,
      Sha256.ofText a = Sha256.ofText b → a = b) ∧
      echoed.requests.any (fun r => r.question == "What did we earn last week?" &&
        r.stage.answer?.any (·.result.question == "revenue last week")) = true := by
    decide +kernel
  have faithful : Key.Faithful Sha256.ofText echoed.digested :=
    { length := fun a b => by rw [Sha256.length_ofText, Sha256.length_ofText]
      separate }
  obtain ⟨r, made, found⟩ := List.any_eq_true.mp found
  obtain ⟨asked, answered⟩ := Bool.and_eq_true_iff.mp found
  obtain ⟨a, answer, shown⟩ := (Option.any_eq_true _ _).mp answered
  have stage := Stage.eq_answered answer
  exact ⟨r, made, a, stage, beq_iff_eq.mp asked, beq_iff_eq.mp shown,
    (answer_worded reached faithful made stage).2⟩

end MetricDesk.World
