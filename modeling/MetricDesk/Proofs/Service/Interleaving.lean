import MetricDesk.Proofs.Failure
import MetricDesk.Service.Basic

/-! Requests side by side. A request goes on from stage to stage, and wherever it waits others go on
with the same caches. Main statement: `alone_answer`, a request that nothing comes between ends as
`Service.answer` ends, with the same state. -/
namespace MetricDesk

/-- What a request asks for. -/
inductive Goal where
  | plan
  | answer
  deriving DecidableEq

/-- How far a request has come, and what it has in its hands. -/
inductive Stage where
  | received
  /-- No plan is kept. -/
  | unplanned
  /-- A plan is made and not yet stored. -/
  | drafted (plan : Plan)
  | planned (plan : Plan) (planCached : Bool)
  /-- No result is kept. -/
  | missing (plan : Plan) (planCached : Bool)
  /-- A result is computed and not yet stored. -/
  | computed (plan : Plan) (planCached : Bool) (result : Result)
  | resulted (plan : Plan) (planCached : Bool) (result : Result) (resultCached : Bool)
  | checked (plan : Plan) (planCached : Bool) (result : Result) (resultCached : Bool)
  | answered (a : Answer)
  | failed (failure : Failure)

def Stage.answer? : Stage → Option Answer
  | .answered a => some a
  | _ => none

theorem Stage.eq_answered {stage : Stage} {a : Answer} (h : stage.answer? = some a) :
    stage = .answered a := by
  cases stage with
  | answered b => cases h; rfl
  | _ => cases h

structure Request where
  question : String
  tenant : String
  goal : Goal
  stage : Stage

namespace Service

variable {τ σ : Type}

/-- Work after work, on the state that the first leaves. -/
theorem bind_apply {α β : Type} (m : Work τ σ α) (f : α → Work τ σ β) (s : ServiceState τ σ) :
    (m >>= f) s = match m s with
      | (.ok a, s') => f a s'
      | (.error failure, s') => (.error failure, s') := by
  rw [Dialogue.bind_apply]
  cases m s with
  | mk found s' => cases found <;> rfl

/-- Work after work succeeds where each does. -/
theorem bind_ok {α β : Type} {m : Work τ σ α} {f : α → Work τ σ β} {s s' : ServiceState τ σ} {b : β}
    (h : (m >>= f) s = (.ok b, s')) : ∃ a s₁, m s = (.ok a, s₁) ∧ f a s₁ = (.ok b, s') := by
  rw [bind_apply] at h
  cases done : m s with
  | mk found s₁ =>
    rw [done] at h
    cases found with
    | error failure => cases h
    | ok a => exact ⟨a, s₁, rfl, h⟩

theorem caches_of_makeResult (v : Service σ) (o : Occasion τ) (question tenant : String)
    (plan : Plan) (s : ServiceState τ σ) :
    (v.makeResult o question tenant plan s).2.caches = s.caches := by
  unfold makeResult
  split
  · rfl
  · simp only
    split <;> rfl

variable [Clock τ]

/-- A plan is what is kept under its question's key, or what is made of it now and put in. -/
theorem parts_of_plan {v : Service σ} {o : Occasion τ} {question : String}
    {s s' : ServiceState τ σ} {plan : Plan} {cached : Bool}
    (h : v.plan o question s = (.ok (plan, cached), s')) :
    (cached = true ∧ (s.caches.getPlan v.digest o.now question).1 = some plan ∧
        s' = { s with caches := (s.caches.getPlan v.digest o.now question).2 }) ∨
      (cached = false ∧ (s.caches.getPlan v.digest o.now question).1 = none ∧ ∃ model,
        v.planner.plan question o.told.iso s.model = (.ok plan, model) ∧
        s' = { s with
          caches := (s.caches.getPlan v.digest o.now question).2.setPlan v.digest o.now question plan
          model }) := by
  simp only [Service.plan, bind_apply, lookUpPlan] at h
  cases found : (s.caches.getPlan v.digest o.now question).1 with
  | some kept =>
    rw [found] at h
    cases h
    exact Or.inl ⟨rfl, rfl, rfl⟩
  | none =>
    rw [found] at h
    simp only [bind_apply, makePlan, withModel] at h
    cases made : v.planner.plan question o.told.iso s.model with
    | mk outcome model =>
      rw [made] at h
      cases outcome with
      | error failure => cases h
      | ok fresh =>
        cases h
        exact Or.inr ⟨rfl, rfl, model, rfl, rfl⟩

/-- One stage of a request. -/
def next (v : Service σ) (o : Occasion τ) (r : Request) : Work τ σ Stage :=
  match r.stage with
  | .received => do
    if r.goal = .answer && !v.isEnabled then throw (.disabled (.key Client.Provider.openai.keyName))
    match ← v.lookUpPlan o r.question with
    | some plan => return .planned plan true
    | none => return .unplanned
  | .unplanned => return .drafted (← v.makePlan o r.question)
  | .drafted plan => do
    v.storePlan o r.question plan
    return .planned plan false
  | .planned plan planCached =>
    match r.goal with
    | .plan => return .planned plan planCached
    | .answer => do
      match ← v.lookUpResult o r.tenant plan with
      | some result => return .resulted plan planCached result true
      | none => return .missing plan planCached
  | .missing plan planCached =>
    return .computed plan planCached (← v.makeResult o r.question r.tenant plan)
  | .computed plan planCached result => do
    v.storeResult o r.tenant plan result
    return .resulted plan planCached result false
  | .resulted plan planCached result resultCached =>
    return .checked plan planCached (← liftM (Result.validate result.toValue)) resultCached
  | .checked plan planCached result resultCached => do
    let narration ← withModel (v.narrator.narrate result .null)
    return .answered ⟨narration, result, plan, planCached, resultCached⟩
  | .answered a => return .answered a
  | .failed failure => return .failed failure

/-- A request one stage further, and what it leaves behind. -/
def advance (v : Service σ) (o : Occasion τ) (r : Request) (s : ServiceState τ σ) :
    Request × ServiceState τ σ :=
  match v.next o r s with
  | (.ok stage, s') => ({ r with stage }, s')
  | (.error failure, s') => ({ r with stage := .failed failure }, s')

/-! ### What a stage does -/

/-- How a request for the answer to a question, or for its plan, goes on where nothing fails. -/
inductive Moves (v : Service σ) (o : Occasion τ) (question tenant : String) (goal : Goal)
    (s : ServiceState τ σ) : Stage → Stage → ServiceState τ σ → Prop where
  | planKept {plan} (found : (s.caches.getPlan v.digest o.now question).1 = some plan) :
    Moves v o question tenant goal s .received (.planned plan true)
      { s with caches := (s.caches.getPlan v.digest o.now question).2 }
  | planUnkept (absent : (s.caches.getPlan v.digest o.now question).1 = none) :
    Moves v o question tenant goal s .received .unplanned
      { s with caches := (s.caches.getPlan v.digest o.now question).2 }
  | draft {plan model} (made : v.planner.plan question o.told.iso s.model = (.ok plan, model)) :
    Moves v o question tenant goal s .unplanned (.drafted plan) { s with model }
  | storePlan {plan} :
    Moves v o question tenant goal s (.drafted plan) (.planned plan false)
      { s with caches := s.caches.setPlan v.digest o.now question plan }
  | stay {plan planCached} (notAnswer : goal ≠ .answer) :
    Moves v o question tenant goal s (.planned plan planCached) (.planned plan planCached) s
  | resultKept {plan planCached result}
      (found : (s.caches.getResult v.digest o.now tenant plan).1 = some result) :
    Moves v o question tenant goal s (.planned plan planCached)
      (.resulted plan planCached result true)
      { s with caches := (s.caches.getResult v.digest o.now tenant plan).2 }
  | resultUnkept {plan planCached}
      (absent : (s.caches.getResult v.digest o.now tenant plan).1 = none) :
    Moves v o question tenant goal s (.planned plan planCached) (.missing plan planCached)
      { s with caches := (s.caches.getResult v.digest o.now tenant plan).2 }
  | compute {plan planCached result}
      (made : Execution.execute v.source question tenant plan o.today = .done result) :
    Moves v o question tenant goal s (.missing plan planCached) (.computed plan planCached result)
      { s with queries := s.queries ++ Execution.queriesOn plan tenant o.today }
  | storeResult {plan planCached result} :
    Moves v o question tenant goal s (.computed plan planCached result)
      (.resulted plan planCached result false)
      { s with caches := s.caches.setResult v.digest o.now tenant plan result }
  | check {plan planCached result checked resultCached}
      (passed : Result.validate result.toValue = .ok checked) :
    Moves v o question tenant goal s (.resulted plan planCached result resultCached)
      (.checked plan planCached checked resultCached) s
  | narrate {plan planCached result resultCached narration model}
      (told : v.narrator.narrate result .null s.model = (.ok narration, model)) :
    Moves v o question tenant goal s (.checked plan planCached result resultCached)
      (.answered ⟨narration, result, plan, planCached, resultCached⟩) { s with model }
  | answered {a} : Moves v o question tenant goal s (.answered a) (.answered a) s
  | failed {failure} : Moves v o question tenant goal s (.failed failure) (.failed failure) s

theorem moves_of_next {v : Service σ} {o : Occasion τ} {r : Request} {s s' : ServiceState τ σ}
    {stage : Stage} (h : v.next o r s = (.ok stage, s')) :
    Moves v o r.question r.tenant r.goal s r.stage stage s' := by
  obtain ⟨question, tenant, goal, here⟩ := r
  cases here with
  | received =>
    simp only [next] at h
    split at h
    · cases h
    · rw [bind_apply] at h
      cases found : (s.caches.getPlan v.digest o.now question).1 with
      | none =>
        simp only [lookUpPlan, found] at h
        cases h
        exact .planUnkept found
      | some plan =>
        simp only [lookUpPlan, found] at h
        cases h
        exact .planKept found
  | unplanned =>
    simp only [next, bind_apply, makePlan, withModel] at h
    cases made : v.planner.plan question o.told.iso s.model with
    | mk found model =>
      rw [made] at h
      cases found with
      | error failure => cases h
      | ok plan => cases h; exact .draft made
  | drafted plan => cases h; exact .storePlan
  | planned plan planCached =>
    cases goal with
    | plan => cases h; exact .stay nofun
    | answer =>
      simp only [next, bind_apply] at h
      cases found : (s.caches.getResult v.digest o.now tenant plan).1 with
      | none =>
        simp only [lookUpResult, found] at h
        cases h
        exact .resultUnkept found
      | some result =>
        simp only [lookUpResult, found] at h
        cases h
        exact .resultKept found
  | missing plan planCached =>
    simp only [next, bind_apply, makeResult] at h
    split at h
    · next result s' found =>
      cases h
      split at found
      · cases found
      · split at found
        · next made => cases found; exact .compute made
        · cases found
        · cases found
    · cases h
  | computed plan planCached result => cases h; exact .storeResult
  | resulted plan planCached result resultCached =>
    simp only [next, bind_apply] at h
    cases passed : Result.validate result.toValue with
    | error failure => rw [passed] at h; cases h
    | ok checked => rw [passed] at h; cases h; exact .check passed
  | checked plan planCached result resultCached =>
    simp only [next, bind_apply, withModel] at h
    cases told : v.narrator.narrate result .null s.model with
    | mk found model =>
      rw [told] at h
      cases found with
      | error failure => cases h
      | ok narration => cases h; exact .narrate told
  | answered a => cases h; exact .answered
  | failed failure => cases h; exact .failed

/-- Where a stage fails the caches stay as they are. -/
theorem caches_of_failure {v : Service σ} {o : Occasion τ} {r : Request} {s s' : ServiceState τ σ}
    {failure : Failure} (h : v.next o r s = (.error failure, s')) : s'.caches = s.caches := by
  obtain ⟨question, tenant, goal, here⟩ := r
  cases here with
  | received =>
    simp only [next] at h
    split at h
    · cases h; rfl
    · rw [bind_apply] at h
      cases found : (s.caches.getPlan v.digest o.now question).1 with
      | none => simp only [lookUpPlan, found] at h; cases h
      | some plan => simp only [lookUpPlan, found] at h; cases h
  | unplanned =>
    simp only [next, bind_apply, makePlan, withModel] at h
    cases made : v.planner.plan question o.told.iso s.model with
    | mk found model => rw [made] at h; cases found <;> cases h; rfl
  | drafted plan => cases h
  | planned plan planCached =>
    cases goal with
    | plan => cases h
    | answer =>
      simp only [next, bind_apply] at h
      cases found : (s.caches.getResult v.digest o.now tenant plan).1 with
      | none => simp only [lookUpResult, found] at h; cases h
      | some result => simp only [lookUpResult, found] at h; cases h
  | missing plan planCached =>
    simp only [next, bind_apply, makeResult] at h
    split at h
    · cases h
    · next found =>
      cases h
      split at found
      · cases found; rfl
      · split at found <;> cases found <;> rfl
  | computed plan planCached result => cases h
  | resulted plan planCached result resultCached =>
    simp only [next, bind_apply] at h
    cases passed : Result.validate result.toValue with
    | error failure => rw [passed] at h; cases h; rfl
    | ok checked => rw [passed] at h; cases h
  | checked plan planCached result resultCached =>
    simp only [next, bind_apply, withModel] at h
    cases told : v.narrator.narrate result .null s.model with
    | mk found model => rw [told] at h; cases found <;> cases h; rfl
  | answered a => cases h
  | failed failure => cases h

/-! ### A request alone -/

/-- So many stages, with nothing between them. -/
def alone (v : Service σ) (o : Occasion τ) : Nat → Request → ServiceState τ σ →
    Request × ServiceState τ σ
  | 0, r, s => (r, s)
  | n + 1, r, s => let (r, s) := v.advance o r s; v.alone o n r s

/-- The stage in which a request for an answer ends. -/
def lastStage : Except Failure Answer → Stage
  | .ok a => .answered a
  | .error failure => .failed failure

/-- What is left to do for an answer once the result is there. -/
def fromResult (v : Service σ) (plan : Plan) (planCached : Bool) (result : Result)
    (resultCached : Bool) : Work τ σ Answer := do
  let result ← liftM (Result.validate result.toValue)
  let narration ← withModel (v.narrator.narrate result .null)
  return ⟨narration, result, plan, planCached, resultCached⟩

/-- What is left to do for an answer once the plan is there. -/
def fromPlan (v : Service σ) (o : Occasion τ) (question tenant : String) (plan : Plan)
    (planCached : Bool) : Work τ σ Answer := do
  let (result, resultCached) ← v.result o question tenant plan
  v.fromResult plan planCached result resultCached

/-- What is left to do for an answer. -/
def left (v : Service σ) (o : Occasion τ) (question tenant : String) : Stage → Work τ σ Answer
  | .received => v.answer o question tenant
  | .unplanned => do
    let plan ← v.makePlan o question
    v.storePlan o question plan
    v.fromPlan o question tenant plan false
  | .drafted plan => do
    v.storePlan o question plan
    v.fromPlan o question tenant plan false
  | .planned plan planCached => v.fromPlan o question tenant plan planCached
  | .missing plan planCached => do
    let result ← v.makeResult o question tenant plan
    v.storeResult o tenant plan result
    v.fromResult plan planCached result false
  | .computed plan planCached result => do
    v.storeResult o tenant plan result
    v.fromResult plan planCached result false
  | .resulted plan planCached result resultCached =>
    v.fromResult plan planCached result resultCached
  | .checked plan planCached result resultCached => do
    let narration ← withModel (v.narrator.narrate result .null)
    return ⟨narration, result, plan, planCached, resultCached⟩
  | .answered a => return a
  | .failed failure => throw failure

/-- One stage takes its part of what is left. -/
theorem left_eq (v : Service σ) (o : Occasion τ) {r : Request} (goal : r.goal = .answer) :
    v.left o r.question r.tenant r.stage = v.next o r >>= v.left o r.question r.tenant := by
  obtain ⟨question, tenant, _, stage⟩ := r
  subst goal
  cases stage with
  | received =>
    simp only [next, left, answer, plan, decide_true, Bool.true_and]
    cases v.isEnabled with
    | false => rfl
    | true =>
      simp only [Bool.not_true, Bool.false_eq_true, if_false, bind_assoc]
      congr 1
      funext kept
      cases kept with
      | none => simp only [bind_assoc, pure_bind]; rfl
      | some plan => simp only [pure_bind]; rfl
  | planned plan planCached =>
    simp only [next, left, fromPlan, result, bind_assoc]
    congr 1
    funext kept
    cases kept with
    | none => simp only [bind_assoc, pure_bind, left]
    | some result => simp only [pure_bind, left]
  | unplanned => simp only [next, left, bind_assoc, pure_bind]
  | drafted plan => simp only [next, left, bind_assoc, pure_bind]
  | missing plan planCached => simp only [next, left, bind_assoc, pure_bind]
  | computed plan planCached result => simp only [next, left, bind_assoc, pure_bind]
  | resulted plan planCached result resultCached =>
    simp only [next, left, fromResult, bind_assoc, pure_bind]
  | checked plan planCached result resultCached => simp only [next, left, bind_assoc, pure_bind]
  | answered a => rfl
  | failed failure => rfl

theorem left_advance (v : Service σ) (o : Occasion τ) {r : Request} (goal : r.goal = .answer)
    (s : ServiceState τ σ) :
    v.left o r.question r.tenant r.stage s =
      v.left o r.question r.tenant (v.advance o r s).1.stage (v.advance o r s).2 := by
  rw [left_eq v o goal, bind_apply, advance]
  cases v.next o r s with
  | mk found s' => cases found <;> rfl

/-- How many stages are left at most. -/
def distance : Stage → Nat
  | .received => 8
  | .unplanned => 7
  | .drafted _ => 6
  | .planned .. => 5
  | .missing .. => 4
  | .computed .. => 3
  | .resulted .. => 2
  | .checked .. => 1
  | .answered _ | .failed _ => 0

theorem distance_next (v : Service σ) (o : Occasion τ) {r : Request} (goal : r.goal = .answer)
    {s s' : ServiceState τ σ} {stage : Stage} (h : v.next o r s = (.ok stage, s')) :
    distance stage ≤ distance r.stage - 1 := by
  have moves := moves_of_next h
  generalize r.stage = here at moves ⊢
  cases moves with
  | stay notAnswer => exact absurd goal notAnswer
  | _ => simp [distance]

theorem advance_request (v : Service σ) (o : Occasion τ) (r : Request) (s : ServiceState τ σ) :
    (v.advance o r s).1 = { r with stage := (v.advance o r s).1.stage } := by
  unfold advance
  split <;> rfl

theorem distance_advance (v : Service σ) (o : Occasion τ) {r : Request} (goal : r.goal = .answer)
    (s : ServiceState τ σ) : distance (v.advance o r s).1.stage ≤ distance r.stage - 1 := by
  unfold advance
  split
  · next found => exact distance_next v o goal found
  · exact Nat.zero_le _

/-- A request for an answer that nothing comes between ends as its work alone would. -/
theorem alone_left (v : Service σ) (o : Occasion τ) (n : Nat) {r : Request}
    (goal : r.goal = .answer) (near : distance r.stage ≤ n) (s : ServiceState τ σ) :
    (v.alone o n r s).1.stage = lastStage (v.left o r.question r.tenant r.stage s).1 ∧
      (v.alone o n r s).2 = (v.left o r.question r.tenant r.stage s).2 := by
  induction n generalizing r s with
  | zero =>
    obtain ⟨question, tenant, _, stage⟩ := r
    cases stage with
    | answered a => exact ⟨rfl, rfl⟩
    | failed failure => exact ⟨rfl, rfl⟩
    | _ => cases near
  | succ n ih =>
    have nearer : distance (v.advance o r s).1.stage ≤ n :=
      Nat.le_trans (distance_advance v o goal s) (Nat.sub_le_of_le_add near)
    have asked := advance_request v o r s
    have split : v.alone o (n + 1) r s = v.alone o n (v.advance o r s).1 (v.advance o r s).2 := rfl
    rw [left_advance v o goal s, split]
    generalize (v.advance o r s).1 = r' at *
    obtain ⟨question, tenant, _, stage⟩ := r'
    cases asked
    exact ih (r := ⟨r.question, r.tenant, r.goal, stage⟩) goal nearer (v.advance o r s).2

/-- A request that nothing comes between is answered as the service answers it. -/
theorem alone_answer (v : Service σ) (o : Occasion τ) (question tenant : String)
    (s : ServiceState τ σ) :
    (v.alone o 8 ⟨question, tenant, .answer, .received⟩ s).1.stage =
        lastStage (v.answer o question tenant s).1 ∧
      (v.alone o 8 ⟨question, tenant, .answer, .received⟩ s).2 =
        (v.answer o question tenant s).2 :=
  alone_left v o 8 (r := ⟨question, tenant, .answer, .received⟩) rfl (Nat.le_refl 8) s

/-- The stage in which a request for a plan ends. -/
def planStage : Except Failure (Plan × Bool) → Stage
  | .ok (plan, planCached) => .planned plan planCached
  | .error failure => .failed failure

theorem alone_unplanned (v : Service σ) (o : Occasion τ) (question tenant : String)
    (s : ServiceState τ σ) :
    let made : Work τ σ (Plan × Bool) := do
      let plan ← v.makePlan o question
      v.storePlan o question plan
      return (plan, false)
    (v.alone o 2 ⟨question, tenant, .plan, .unplanned⟩ s).1.stage = planStage (made s).1 ∧
      (v.alone o 2 ⟨question, tenant, .plan, .unplanned⟩ s).2 = (made s).2 := by
  simp only [alone, advance, next, bind_apply]
  cases v.makePlan o question s with
  | mk found s' => cases found <;> exact ⟨rfl, rfl⟩

/-- A request for a plan that nothing comes between gets the plan that the service gives. -/
theorem alone_plan (v : Service σ) (o : Occasion τ) (question tenant : String)
    (s : ServiceState τ σ) :
    (v.alone o 3 ⟨question, tenant, .plan, .received⟩ s).1.stage =
        planStage (v.plan o question s).1 ∧
      (v.alone o 3 ⟨question, tenant, .plan, .received⟩ s).2 = (v.plan o question s).2 := by
  have first : v.next o ⟨question, tenant, .plan, .received⟩ s =
      (v.lookUpPlan o question >>= fun kept => match kept with
        | some plan => pure (.planned plan true)
        | none => pure .unplanned) s := rfl
  rw [alone, advance, plan, first, bind_apply, bind_apply]
  cases v.lookUpPlan o question s with
  | mk found s' =>
    cases found with
    | error failure => exact ⟨rfl, rfl⟩
    | ok kept =>
      cases kept with
      | some plan => exact ⟨rfl, rfl⟩
      | none => exact v.alone_unplanned o question tenant s'

end Service
end MetricDesk
