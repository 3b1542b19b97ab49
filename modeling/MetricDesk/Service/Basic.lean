import MetricDesk.Analysis.Execution
import MetricDesk.Cache.Pair
import MetricDesk.Client.Basic
import MetricDesk.Narration.Basic
import MetricDesk.Planner
import MetricDesk.Result.Validation

/-! The service that answers questions. A request is planned, executed, checked and narrated; plans
and results are kept in caches that all requests share. Whatever fails before the narration fails
the request, and nothing is tried twice. -/
namespace MetricDesk

/-- What the service is made of. -/
structure Service (σ : Type) where
  mode : Mode
  model : Option (Model σ)
  planner : Planner σ
  narrator : Narrator σ
  source : Source
  digest : Key.Digest
  /-- What one request may take, in seconds; without a budget as long as it takes. -/
  budget : Option Number

/-- What goes on changing: the caches, the state of the model, and every query that has gone to
the source, the latest last. -/
structure ServiceState (τ σ : Type) where
  caches : Caches τ Result
  model : σ
  queries : List Query

/-- When a request is made: the reading of the clock, the day that windows end with, and the day
of which the planner is told. -/
structure Occasion (τ : Type) where
  now : τ
  today : Date
  told : Date

/-- The answer to a question. -/
structure Answer where
  narration : Narration
  result : Result
  plan : Plan
  planCached : Bool
  resultCached : Bool

namespace Service

variable {τ σ : Type}

/-- Work of the service on its state. -/
abbrev Work (τ σ α : Type) := Dialogue (ServiceState τ σ) α

/-- Work of the model alone. -/
def withModel (work : Dialogue σ α) : Work τ σ α := fun s =>
  let (found, model) := work s.model
  (found, { s with model })

/-- With the built-in rules the service always answers, otherwise only if its model can. -/
def isEnabled (v : Service σ) : Bool :=
  match v.mode with
  | .rules => true
  | .model => (v.model.map (·.enabled)).getD false

/-! ### Stages -/

section Stages

variable [Clock τ]

def lookUpPlan (v : Service σ) (o : Occasion τ) (question : String) : Work τ σ (Option Plan) :=
  fun s =>
    let (found, caches) := s.caches.getPlan v.digest o.now question
    (.ok found, { s with caches })

def makePlan (v : Service σ) (o : Occasion τ) (question : String) : Work τ σ Plan :=
  withModel (v.planner.plan question o.told.iso)

def storePlan (v : Service σ) (o : Occasion τ) (question : String) (plan : Plan) :
    Work τ σ Unit := fun s =>
  (.ok (), { s with caches := s.caches.setPlan v.digest o.now question plan })

def lookUpResult (v : Service σ) (o : Occasion τ) (tenant : String) (plan : Plan) :
    Work τ σ (Option Result) := fun s =>
  let (found, caches) := s.caches.getResult v.digest o.now tenant plan
  (.ok found, { s with caches })

/-- The budget has run out. Its number may be too large to be told. -/
def timedOut (v : Service σ) : Failure :=
  match (v.budget.getD (.int 0)).toDouble with
  | .ok seconds => .timedOut seconds.brief
  | .error fault => .arithmetic fault

/-- A budget that is no number has run out as soon as anything is waited for. -/
def isImpatient (v : Service σ) : Bool := v.budget.any (·.isNan)

/-- The queries of the plan go to the source. Where it never answers, the budget runs out. -/
def makeResult (v : Service σ) (o : Occasion τ) (question tenant : String) (plan : Plan) :
    Work τ σ Result := fun s =>
  let asked (queries : List Query) := { s with queries := s.queries ++ queries }
  match Execution.windows plan o.today, v.isImpatient with
  | .ok w, true => (.error v.timedOut, asked (Execution.firstQueries plan tenant w))
  | _, _ =>
    let s := asked (Execution.queriesOn plan tenant o.today)
    match Execution.execute v.source question tenant plan o.today with
    | .done result => (.ok result, s)
    | .failed failure => (.error failure, s)
    | .pending => (.error v.timedOut, s)

def storeResult (v : Service σ) (o : Occasion τ) (tenant : String) (plan : Plan)
    (result : Result) : Work τ σ Unit := fun s =>
  (.ok (), { s with caches := s.caches.setResult v.digest o.now tenant plan result })

/-! ### Requests -/

/-- The plan of a question, and whether it was kept. -/
def plan (v : Service σ) (o : Occasion τ) (question : String) : Work τ σ (Plan × Bool) := do
  match ← v.lookUpPlan o question with
  | some plan => return (plan, true)
  | none =>
    let plan ← v.makePlan o question
    v.storePlan o question plan
    return (plan, false)

/-- The result of a plan, and whether it was kept. -/
def result (v : Service σ) (o : Occasion τ) (question tenant : String) (plan : Plan) :
    Work τ σ (Result × Bool) := do
  match ← v.lookUpResult o tenant plan with
  | some result => return (result, true)
  | none =>
    let result ← v.makeResult o question tenant plan
    v.storeResult o tenant plan result
    return (result, false)

/-- The answer to a question, as long as it may take. -/
def answer (v : Service σ) (o : Occasion τ) (question tenant : String) : Work τ σ Answer := do
  if !v.isEnabled then throw (.disabled (.key Client.Provider.openai.keyName))
  let (plan, planCached) ← v.plan o question
  let (result, resultCached) ← v.result o question tenant plan
  let result ← liftM (Result.validate result.toValue)
  let narration ← withModel (v.narrator.narrate result .null)
  return ⟨narration, result, plan, planCached, resultCached⟩

/-- The answer within the budget; nothing is begun where it is spent, or too large to be kept. -/
def ask (v : Service σ) (o : Occasion τ) (question tenant : String) : Work τ σ Answer :=
  match v.budget with
  | none => v.answer o question tenant
  | some budget => do
    if budget.le (.int 0) then throw v.timedOut
    let _ ← liftM (arithmetic budget.toDouble)
    v.answer o question tenant

end Stages

end Service

/-- The confidence of an answer as a number. -/
def Answer.score (a : Answer) : Double := .ofRatio false a.result.confidence.tenths 10

end MetricDesk
