import MetricDesk.Http.Address
import MetricDesk.Http.Body
import MetricDesk.Http.Route
import MetricDesk.Json.Writer
import MetricDesk.Service.Basic
import MetricDesk.Value.Wire

/-! The service over HTTP. A failure of the service's own becomes a status with its details; any
other failure is let through. -/
namespace MetricDesk.Http

/-- A response may have nothing to say but its status. -/
structure Response where
  status : Nat
  body : Option Value

/-- A failure as a status. -/
def statusOf : Failure.Kind → Nat
  | .capabilityDisabled => 503
  | .noResponse | .dataSource => 502
  | .schemaValidation | .planParse => 422
  | .requestTimeout => 504
  | _ => 500

def detail (status : Nat) (v : Value) : Response := ⟨status, some (.obj [("detail", v)])⟩

def failureDetail (f : Failure) : Value := .obj (
  [("error", .str f.kind.name), ("message", .str f.message)]
    ++ (f.details?.map fun ds => ("errors", Value.list (ds.map .str))).toList)

/-- The response to a failure, or the failure itself if it is not the service's own. -/
def ofFailure (f : Failure) : Except Failure Response :=
  if f.kind.isOwn then .ok (detail (statusOf f.kind) (failureDetail f)) else .error f

/-- A response that succeeds; no number in it is anything but finite. -/
def found (v : Value) : Response := ⟨200, some v.wire⟩

mutual

/-- Whether all numbers are finite. -/
def isFinite : Value → Bool
  | .num (.dbl x) => x.isFinite
  | .list xs => areFinite xs
  | .obj fs => fieldsFinite fs
  | _ => true

def areFinite : List Value → Bool
  | [] => true
  | x :: xs => isFinite x && areFinite xs

def fieldsFinite : List (String × Value) → Bool
  | [] => true
  | (_, v) :: fs => isFinite v && fieldsFinite fs

end

/-- The body that a document makes. Numbers that are not finite have no place in one. -/
def bodyOf (v : Value) : Except Failure String :=
  if isFinite v then .ok (Json.text Json.compact v) else .error .notFinite

def problemDetail (p : BodyProblem) : Value := .obj [
  ("type", .str p.fault.kind),
  ("loc", .list (.str "body" :: p.place)),
  ("msg", .str p.fault.message)]

/-- The response to a body that is wrong. What was found goes along with it, and cannot where it
holds a number that is not finite. -/
def ofBodyError : BodyError → Except Failure Response
  | .unreadable => .ok (detail 400 (.str "There was an error parsing the body"))
  | .invalid problems =>
    if problems.all fun p => isFinite p.found then
      .ok (detail 422 (.list (problems.map problemDetail)))
    else .error .notFinite

/-! ### The vocabulary -/

def names (xs : List String) : Value := .list (xs.map .str)

def metricItem (m : Metric) : Value := .obj [
  ("name", .str m.name),
  ("description", .str m.description),
  ("aggregation", .str m.rollup.name),
  ("breakdowns", names (m.breakdowns.map (·.name)))]

def catalog : Value := .obj [
  ("metrics", .list (Metric.all.map metricItem)),
  ("breakdowns", names (Breakdown.all.map (·.name))),
  ("granularities", names (Granularity.all.map (·.name))),
  ("comparisons", names (Comparison.all.map (·.name))),
  ("analyses", names analysisNames),
  ("response_modes", names (ResponseMode.all.map (·.name)))]

def exampleQuestions : List String := [
  "What was revenue over the last 7 days compared to the previous period?",
  "Why did revenue drop last week by country?",
  "Show DAU by platform for the last 14 days",
  "How many installs did we get in the past 30 days?",
  "What is our d1 retention over the last 4 weeks?",
  "What was ARPDAU last month?"]

/-- Who answers, and whether they can. -/
def health (v : Service σ) : Value :=
  let (provider, enabled) := match v.mode, v.model with
    | .model, some m => (m.provider, m.enabled)
    | _, _ => (Mode.rulesName, true)
  .obj [("status", .str "ok"), ("provider", .str provider), ("ai_enabled", .bool enabled)]

/-! ### Responses -/

def answerBody (a : Answer) : Value := .obj [
  ("response", .str a.narration.text),
  ("confidence", .dbl a.score),
  ("data", a.result.toValue)]

def planBody (question : String) (plan : Plan) (cached : Bool) : Value := .obj [
  ("question", .str question),
  ("plan", plan.toValue),
  ("cached", .bool cached)]

def clearedBody (n : Nat × Nat) : Value := .obj [("plans", .nat n.1), ("results", .nat n.2)]

variable {τ σ : Type}

/-- The response to work of the service that may fail. -/
def ofWork (work : Service.Work τ σ α) (body : α → Value) : Service.Work τ σ Response := fun s =>
  match work s with
  | (.ok a, s) => (.ok (found (body a)), s)
  | (.error f, s) => (ofFailure f, s)

variable [Clock τ]

def ask (v : Service σ) (o : Occasion τ) (body : String) : Service.Work τ σ Response :=
  match texts [.question, .tenant] body with
  | .ok [question, tenant] => ofWork (v.ask o question tenant) answerBody
  | .ok _ => return detail 400 .null
  | .error e => liftM (ofBodyError e)

def plan (v : Service σ) (o : Occasion τ) (body : String) : Service.Work τ σ Response :=
  match texts [.question] body with
  | .ok [question] => ofWork (v.plan o question) fun (p, cached) => planBody question p cached
  | .ok _ => return detail 400 .null
  | .error e => liftM (ofBodyError e)

/-- Both caches emptied. -/
def clear : Service.Work τ σ Response := fun s =>
  let (n, caches) := s.caches.clear
  (.ok (found (.obj [("cleared", clearedBody n)])), { s with caches })

/-- The response of a route. A span of time is shown by `span`. -/
def respondAt (v : Service σ) (span : τ → Value) (o : Occasion τ) (body : String) :
    Route → Service.Work τ σ Response
  | .ask => ask v o body
  | .plan => plan v o body
  | .examples => return found (.obj [("examples", names exampleQuestions)])
  | .cacheStats => fun s => (.ok (found (s.caches.stats span)), s)
  | .cacheClear => clear
  | .metrics => return found (.obj [("metrics", names (Metric.all.map (·.name)))])
  | .catalog => return found catalog
  | .health => return found (health v)
  | .page _ => return ⟨200, none⟩

/-- The response where there is no route. -/
def ofMissing (missing : Route.Missing) : Response :=
  match missing.message? with
  | some words => detail missing.status (.str words)
  | none => ⟨missing.status, none⟩

/-- A request for nothing but the head of a response gets no more. -/
def headOnly (method : String) (r : Response) : Response :=
  if method = "HEAD" then { r with body := none } else r

/-- The response to a request. Its address is looked at before it has a body, and its host once it
goes out. -/
def respond (v : Service σ) (span : τ → Value) (o : Occasion τ) (method address : String)
    (body : Except Failure String) : Service.Work τ σ Response := do
  let a ← liftM ((Address.ofText address).mapError Failure.address)
  let body ← liftM body
  liftM (a.checkHost.mapError Failure.address)
  match Route.find method a.target with
  | .ok r => respondAt v span o body r
  | .error missing => return headOnly method (ofMissing missing)

end MetricDesk.Http
