import MetricDesk.Proofs.Cache.Key
import MetricDesk.Proofs.Service.Interleaving

/-! Everything that can happen to the caches of a service: requests arrive and go on in any order,
at any readings of the clock and over any contents of the source, are given up, and the caches are
swept and cleared. Main statements: `Reachable.kept`, what every happening keeps holds of everything
reachable; `Reachable.ask` and `Reachable.plan`, whole requests made one after the other are among
it. -/
namespace MetricDesk

/-- An execution that took place: what it was for, what it read, and what came of it. -/
structure Performed where
  question : String
  tenant : String
  plan : Plan
  today : Date
  source : Source
  fetched : List Query
  result : Result

/-- The service with the built-in rules over a source, without a budget. -/
def Service.ruled (source : Source) : Service Unit where
  mode := .rules
  model := none
  planner := ⟨.rules, none, .null⟩
  narrator := ⟨.rules, none, .null, .null⟩
  source
  digest := Sha256.ofText
  budget := none

/-- The texts that are digested for a request's next stage. -/
def Request.digests (digest : Key.Digest) (r : Request) : List String :=
  match r.stage with
  | .planned plan _ => Key.texts digest r.tenant plan
  | .computed plan _ _ => Key.texts digest r.tenant plan
  | _ => []

/-- The execution that a stage was, if it was one. -/
def Request.performs {τ σ : Type} (v : Service σ) (o : Occasion τ) (r : Request) (next : Stage)
    (fetched : List Query) : List Performed :=
  match r.stage, next with
  | .missing plan _, .computed _ _ result =>
    [⟨r.question, r.tenant, plan, o.today, v.source, fetched, result⟩]
  | _, _ => []

/-- A service at work, with all that was digested and executed so far. -/
structure World (τ σ : Type) where
  state : ServiceState τ σ
  requests : List Request
  digested : List String
  performed : List Performed

namespace World

variable {τ σ : Type}

/-- A day at its start. -/
def noon : Occasion Number :=
  let day : Date := ⟨739341, by decide, by decide⟩
  ⟨.int 0, day, day⟩

def start (planTtl resultTtl : τ) (maxSize : Int) (model : σ) : World τ σ :=
  ⟨⟨.empty planTtl resultTtl maxSize, model, []⟩, [], [], []⟩

def arrive (w : World τ σ) (question tenant : String) (goal : Goal) : World τ σ :=
  { w with requests := w.requests ++ [⟨question, tenant, goal, .received⟩] }

/-- A request ends without an answer: its time is up, or nobody waits for it any more. -/
def abandon (w : World τ σ) (i : Nat) (failure : Failure) : World τ σ :=
  match w.requests[i]? with
  | some r =>
    match r.stage with
    | .answered _ => w
    | _ => { w with requests := w.requests.set i { r with stage := .failed failure } }
  | none => w

def withCaches (w : World τ σ) (caches : Caches τ Result) : World τ σ :=
  { w with state := { w.state with caches } }

/-- What holds of all requests does so after another has arrived. -/
theorem forall_arrive {P : Request → Prop} {w : World τ σ} {question tenant : String} {goal : Goal}
    (others : ∀ r ∈ w.requests, P r) (own : P ⟨question, tenant, goal, .received⟩) :
    ∀ r ∈ (w.arrive question tenant goal).requests, P r := by
  intro r mem
  rcases List.mem_append.mp mem with old | new
  · exact others r old
  · exact (List.mem_singleton.mp new) ▸ own

/-- What holds of all requests does so after one of them has gone on. -/
theorem forall_set {P : Request → Prop} {rs : List Request} {i : Nat} {r : Request}
    (others : ∀ r' ∈ rs, P r') (own : P r) : ∀ r' ∈ rs.set i r, P r' := by
  intro r' mem
  rcases List.mem_or_eq_of_mem_set mem with old | rfl
  · exact others r' old
  · exact own

variable [Clock τ]

/-- A request goes one stage further. -/
def proceed (w : World τ σ) (v : Service σ) (o : Occasion τ) (i : Nat) : World τ σ :=
  match w.requests[i]? with
  | some r =>
    let (r', state) := v.advance o r w.state
    { state
      requests := w.requests.set i r'
      digested := w.digested ++ r.digests v.digest
      performed := w.performed ++
        r.performs v o r'.stage (state.queries.drop w.state.queries.length) }
  | none => w

theorem proceed_none {w : World τ σ} {i : Nat} (h : w.requests[i]? = none) (v : Service σ)
    (o : Occasion τ) : w.proceed v o i = w := by
  rw [proceed, h]

theorem proceed_ok {w : World τ σ} {v : Service σ} {o : Occasion τ} {i : Nat} {r : Request}
    {stage : Stage} {state : ServiceState τ σ} (h : w.requests[i]? = some r)
    (outcome : v.next o r w.state = (.ok stage, state)) :
    w.proceed v o i = {
      state
      requests := w.requests.set i { r with stage }
      digested := w.digested ++ r.digests v.digest
      performed := w.performed ++
        r.performs v o stage (state.queries.drop w.state.queries.length) } := by
  simp only [proceed, h, Service.advance, outcome]

theorem proceed_error {w : World τ σ} {v : Service σ} {o : Occasion τ} {i : Nat} {r : Request}
    {failure : Failure} {state : ServiceState τ σ} (h : w.requests[i]? = some r)
    (outcome : v.next o r w.state = (.error failure, state)) :
    w.proceed v o i = {
      state
      requests := w.requests.set i { r with stage := .failed failure }
      digested := w.digested ++ r.digests v.digest
      performed := w.performed } := by
  have quiet (fetched : List Query) : r.performs v o (.failed failure) fetched = [] := by
    obtain ⟨_, _, _, stage⟩ := r
    cases stage <;> rfl
  simp only [proceed, h, Service.advance, outcome, quiet, List.append_nil]

/-- What can happen next. The source may hold something else each time it is read, and the model may
be in any state. -/
inductive Step (v : Service σ) : World τ σ → World τ σ → Prop where
  | arrive (w : World τ σ) (question tenant : String) (goal : Goal) :
    Step v w (w.arrive question tenant goal)
  | proceed (w : World τ σ) (source : Source) (o : Occasion τ) (i : Nat) :
    Step v w (w.proceed { v with source } o i)
  | abandon (w : World τ σ) (i : Nat) (failure : Failure) : Step v w (w.abandon i failure)
  | clear (w : World τ σ) : Step v w (w.withCaches w.state.caches.clear.2)
  | sweep (w : World τ σ) (now : τ) :
    Step v w (w.withCaches { w.state.caches with
      plans := (w.state.caches.plans.sweep now).2
      results := (w.state.caches.results.sweep now).2 })
  | drift (w : World τ σ) (model : σ) : Step v w { w with state := { w.state with model } }

/-- What can happen from empty caches. -/
inductive Reachable (v : Service σ) : World τ σ → Prop where
  | start (planTtl resultTtl : τ) (maxSize : Int) (model : σ) :
    Reachable v (start planTtl resultTtl maxSize model)
  | next {w w' : World τ σ} : Reachable v w → Step v w w' → Reachable v w'

/-- What everything that can happen keeps. A request that goes on does so by a move or fails, and
failing leaves the caches alone; the caches lose entries now and then. -/
structure Kept (v : Service σ) (I : World τ σ → Prop) : Prop where
  start (planTtl resultTtl : τ) (maxSize : Int) (model : σ) :
    I (start planTtl resultTtl maxSize model)
  arrive {w : World τ σ} (h : I w) (question tenant : String) (goal : Goal) :
    I (w.arrive question tenant goal)
  move {w : World τ σ} {source : Source} {o : Occasion τ} {i : Nat} {r : Request} {stage : Stage}
    {state : ServiceState τ σ} (h : I w) (here : w.requests[i]? = some r)
    (moves : Service.Moves { v with source } o r.question r.tenant r.goal w.state r.stage stage
      state) :
    I { state
        requests := w.requests.set i { r with stage }
        digested := w.digested ++ r.digests v.digest
        performed := w.performed ++ r.performs { v with source } o stage
          (state.queries.drop w.state.queries.length) }
  fail {w : World τ σ} {i : Nat} {r : Request} {state : ServiceState τ σ} (h : I w)
    (here : w.requests[i]? = some r) (failure : Failure) (same : state.caches = w.state.caches)
    (digested : List String) :
    I { state
        requests := w.requests.set i { r with stage := .failed failure }
        digested := w.digested ++ digested
        performed := w.performed }
  lose {w : World τ σ} {caches : Caches τ Result} (h : I w)
    (plans : ∀ entry ∈ caches.plans.entries, entry ∈ w.state.caches.plans.entries)
    (results : ∀ entry ∈ caches.results.entries, entry ∈ w.state.caches.results.entries) :
    I (w.withCaches caches)
  drift {w : World τ σ} (h : I w) (model : σ) : I { w with state := { w.state with model } }

theorem Kept.proceed {v : Service σ} {I : World τ σ → Prop} (kept : Kept v I) {w : World τ σ}
    (h : I w) (source : Source) (o : Occasion τ) (i : Nat) :
    I (w.proceed { v with source } o i) := by
  cases here : w.requests[i]? with
  | none =>
    rw [proceed_none here]
    exact h
  | some r =>
    cases outcome : Service.next { v with source } o r w.state with
    | mk found state =>
      cases found with
      | error failure =>
        rw [proceed_error here outcome]
        exact kept.fail h here failure (Service.caches_of_failure outcome) _
      | ok stage =>
        rw [proceed_ok here outcome]
        exact kept.move h here (Service.moves_of_next outcome)

theorem Kept.step {v : Service σ} {I : World τ σ → Prop} (kept : Kept v I) {w w' : World τ σ}
    (h : I w) (step : Step v w w') : I w' := by
  cases step with
  | arrive question tenant goal => exact kept.arrive h question tenant goal
  | proceed source o i => exact kept.proceed h source o i
  | abandon i failure =>
    unfold abandon
    split
    · next r here =>
      split
      · exact h
      · have failed := kept.fail h here failure (rfl : w.state.caches = w.state.caches) []
        rwa [List.append_nil] at failed
    · exact h
  | clear => exact kept.lose h (by rintro entry ⟨⟩) (by rintro entry ⟨⟩)
  | sweep now =>
    exact kept.lose h (fun _ mem => (List.mem_filter.mp mem).1)
      fun _ mem => (List.mem_filter.mp mem).1
  | drift model => exact kept.drift h model

/-- What is kept holds of everything reachable. -/
theorem Reachable.kept {v : Service σ} {I : World τ σ → Prop} (kept : Kept v I) {w : World τ σ}
    (h : Reachable v w) : I w := by
  induction h with
  | start planTtl resultTtl maxSize model => exact kept.start planTtl resultTtl maxSize model
  | next _ step ih => exact kept.step ih step

/-- The same request goes so many stages further, with nothing between them. -/
def proceedTimes (w : World τ σ) (v : Service σ) (o : Occasion τ) (i : Nat) : Nat → World τ σ
  | 0 => w
  | n + 1 => proceedTimes (w.proceed v o i) v o i n

theorem Reachable.proceedTimes {v : Service σ} {w : World τ σ} (h : Reachable v w)
    (o : Occasion τ) (i n : Nat) : Reachable v (w.proceedTimes v o i n) := by
  induction n generalizing w with
  | zero => exact h
  | succ n ih => exact ih (h.next (Step.proceed w v.source o i))

/-! ### Whole requests -/

/-- The last request goes so many stages further. -/
theorem Reachable.alone {v : Service σ} {w : World τ σ} (h : Reachable v w) (source : Source)
    (o : Occasion τ) (n : Nat) {rs : List Request} {r : Request} (last : w.requests = rs ++ [r]) :
    ∃ w', Reachable v w' ∧ w'.state = (Service.alone { v with source } o n r w.state).2 ∧
      w'.requests = rs ++ [(Service.alone { v with source } o n r w.state).1] := by
  induction n generalizing w r with
  | zero => exact ⟨w, h, rfl, last⟩
  | succ n ih =>
    have here : w.requests[rs.length]? = some r := by rw [last]; simp
    have step := h.next (Step.proceed w source o rs.length)
    have state : (w.proceed { v with source } o rs.length).state =
        (Service.advance { v with source } o r w.state).2 := by rw [proceed, here]
    have requests : (w.proceed { v with source } o rs.length).requests =
        rs ++ [(Service.advance { v with source } o r w.state).1] := by
      rw [proceed, here]
      simp [last]
    obtain ⟨w', reached, state', requests'⟩ := ih step requests
    refine ⟨w', reached, ?_, ?_⟩
    · rw [state', state]
      rfl
    · rw [requests', state]
      rfl

/-- A question is answered unless its budget is spent from the start. -/
theorem ask_cases (v : Service σ) (o : Occasion τ) (question tenant : String)
    (s : ServiceState τ σ) :
    (∃ failure, v.ask o question tenant s = (.error failure, s)) ∨
      v.ask o question tenant s = v.answer o question tenant s := by
  unfold Service.ask
  cases v.budget with
  | none => exact Or.inr rfl
  | some budget =>
    simp only
    by_cases spent : budget.le (.int 0) = true
    · rw [if_pos spent]
      exact Or.inl ⟨v.timedOut, rfl⟩
    · rw [if_neg spent]
      cases size : budget.toDouble with
      | error fault => exact Or.inl ⟨.arithmetic fault, rfl⟩
      | ok seconds => exact Or.inr rfl

/-- A whole question, put to the service when nothing else goes on. -/
theorem Reachable.ask {v : Service σ} {w : World τ σ} (h : Reachable v w) (source : Source)
    (o : Occasion τ) (question tenant : String) :
    ∃ w', Reachable v w' ∧
      w'.state = (Service.ask { v with source } o question tenant w.state).2 := by
  rcases ask_cases { v with source } o question tenant w.state with ⟨failure, spent⟩ | answered
  · exact ⟨w, h, by rw [spent]⟩
  · have arrived := h.next (Step.arrive w question tenant .answer)
    obtain ⟨w', reached, state, -⟩ := arrived.alone source o 8 rfl
    rw [answered]
    exact ⟨w', reached,
      state.trans (Service.alone_answer { v with source } o question tenant w.state).2⟩

/-- A whole request for a plan likewise. -/
theorem Reachable.plan {v : Service σ} {w : World τ σ} (h : Reachable v w) (source : Source)
    (o : Occasion τ) (question : String) :
    ∃ w', Reachable v w' ∧ w'.state = (Service.plan { v with source } o question w.state).2 := by
  have arrived := h.next (Step.arrive w question "" .plan)
  obtain ⟨w', reached, state, -⟩ := arrived.alone source o 3 rfl
  exact ⟨w', reached, state.trans (Service.alone_plan { v with source } o question "" w.state).2⟩

end World
end MetricDesk
