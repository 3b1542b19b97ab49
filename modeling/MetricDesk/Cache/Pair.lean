import MetricDesk.Cache.Basic
import MetricDesk.Cache.Key

/-! The two caches of the service: plans by question, results by tenant and plan. -/
namespace MetricDesk

structure Caches (τ ρ : Type) where
  plans : Cache τ Plan
  results : Cache τ ρ
  planTtl : τ
  resultTtl : τ

namespace Caches

variable {τ ρ : Type}

def empty (planTtl resultTtl : τ) (maxSize : Int) : Caches τ ρ :=
  ⟨.empty planTtl maxSize, .empty resultTtl maxSize, planTtl, resultTtl⟩

/-- The numbers of plans and results dropped, and the caches without any. -/
def clear (c : Caches τ ρ) : (Nat × Nat) × Caches τ ρ :=
  let (p, plans) := c.plans.clear
  let (r, results) := c.results.clear
  ((p, r), { c with plans, results })

variable [Clock τ]

def getPlan (c : Caches τ ρ) (digest : Key.Digest) (now : τ) (question : String) :
    Option Plan × Caches τ ρ :=
  let (found, plans) := c.plans.get now (Key.plan digest question)
  (found, { c with plans })

def setPlan (c : Caches τ ρ) (digest : Key.Digest) (now : τ) (question : String) (plan : Plan) :
    Caches τ ρ :=
  { c with plans := c.plans.set now (Key.plan digest question) plan (some c.planTtl) }

def getResult (c : Caches τ ρ) (digest : Key.Digest) (now : τ) (tenant : String) (plan : Plan) :
    Option ρ × Caches τ ρ :=
  let (found, results) := c.results.get now (Key.result digest tenant plan.toValue)
  (found, { c with results })

def setResult (c : Caches τ ρ) (digest : Key.Digest) (now : τ) (tenant : String) (plan : Plan)
    (result : ρ) : Caches τ ρ :=
  { c with
    results := c.results.set now (Key.result digest tenant plan.toValue) result
      (some c.resultTtl) }

end Caches

/-- The counts of a cache as a caller sees them; its span of time is shown by `span`. -/
def Cache.stats (span : τ → Value) (c : Cache τ α) : Value := .obj [
  ("size", .nat c.size),
  ("max_size", .int c.maxSize),
  ("ttl_seconds", span c.defaultTtl),
  ("hits", .nat c.hits),
  ("misses", .nat c.misses),
  ("hit_rate", .dbl c.hitRate)]

def Caches.stats (span : τ → Value) (c : Caches τ ρ) : Value :=
  .obj [("plans", c.plans.stats span), ("results", c.results.stats span)]

end MetricDesk
