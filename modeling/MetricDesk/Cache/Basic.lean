import MetricDesk.Number.Basic

/-! A cache whose entries live for a time. An entry is live as long as no more time has passed
since it was put in than its own span; dead ones are dropped when they are asked for, by a
sweep, or when they are the oldest and room is needed. -/
namespace MetricDesk

/-- Readings of a clock, and spans of time. -/
class Clock (τ : Type) where
  /-- The span from an earlier reading to a later one. -/
  since : τ → τ → τ
  lt : τ → τ → Bool

/-- Readings as numbers; a span too large to be computed counts as none. -/
instance : Clock Number where
  since now created := ((now.sub created).toOption).getD (.int 0)
  lt := Number.lt

structure Entry (τ α : Type) where
  value : α
  created : τ
  ttl : τ

/-- More time has passed than the entry lives. -/
def Entry.isExpired [Clock τ] (e : Entry τ α) (now : τ) : Bool :=
  Clock.lt e.ttl (Clock.since now e.created)

/-- Entries stand in the order in which their keys were first put in. -/
structure Cache (τ α : Type) where
  entries : List (String × Entry τ α)
  defaultTtl : τ
  maxSize : Int
  hits : Nat
  misses : Nat

namespace Cache

variable {τ α : Type}

def empty (defaultTtl : τ) (maxSize : Int) : Cache τ α := ⟨[], defaultTtl, maxSize, 0, 0⟩

def entry? (c : Cache τ α) (key : String) : Option (Entry τ α) := c.entries.lookup key

def has (c : Cache τ α) (key : String) : Bool := c.entries.any (·.1 == key)

def keys (c : Cache τ α) : List String := c.entries.map (·.1)

def size (c : Cache τ α) : Nat := c.entries.length

/-- Without a key. -/
def remove (c : Cache τ α) (key : String) : Cache τ α :=
  { c with entries := c.entries.filter (·.1 != key) }

/-- An entry under a key, at the key's place if it has one. -/
def put (entries : List (String × Entry τ α)) (key : String) (e : Entry τ α) :
    List (String × Entry τ α) :=
  match entries with
  | [] => [(key, e)]
  | (k, old) :: rest => if k = key then (k, e) :: rest else (k, old) :: put rest key e

/-- The number of entries dropped, and the cache without any. -/
def clear (c : Cache τ α) : Nat × Cache τ α := (c.size, { c with entries := [] })

/-- Hits as a share of all look-ups, to three decimal places. -/
def hitRate (c : Cache τ α) : Double :=
  if c.hits + c.misses = 0 then .zero
  else (Double.ofRatio false c.hits (c.hits + c.misses)).round 3

variable [Clock τ]

/-- A look-up at a reading of the clock: the live value, and the cache that has counted it. A
dead entry is dropped. -/
def get (c : Cache τ α) (now : τ) (key : String) : Option α × Cache τ α :=
  match c.entry? key with
  | none => (none, { c with misses := c.misses + 1 })
  | some e =>
    if e.isExpired now then (none, { c.remove key with misses := c.misses + 1 })
    else (some e.value, { c with hits := c.hits + 1 })

/-- The key that was put in the earliest, of several the first in order. -/
def oldest? : List (String × Entry τ α) → Option (String × Entry τ α)
  | [] => none
  | first :: rest => some (rest.foldl (fun oldest next =>
      if Clock.lt next.2.created oldest.2.created then next else oldest) first)

def evictOldest (c : Cache τ α) : Cache τ α :=
  match oldest? c.entries with
  | some (k, _) => c.remove k
  | none => c

/-- A value under a key at a reading of the clock, for a span of its own or the usual one. A
full cache makes room for a new key. -/
def set (c : Cache τ α) (now : τ) (key : String) (value : α) (ttl : Option τ) : Cache τ α :=
  let roomy := if c.maxSize ≤ c.size && !c.has key then c.evictOldest else c
  { roomy with entries := put roomy.entries key ⟨value, now, ttl.getD c.defaultTtl⟩ }

/-- The number of dead entries, and the cache without them. -/
def sweep (c : Cache τ α) (now : τ) : Nat × Cache τ α :=
  ((c.entries.filter (·.2.isExpired now)).length,
    { c with entries := c.entries.filter (!·.2.isExpired now) })

/-! ### Clocks that are read as numbers -/

/-- The age of an entry as a number; not every one can be computed. -/
def age (e : Entry Number α) (now : Number) : Except ArithmeticFault Number := now.sub e.created

/-- A look-up that fails where the age of the entry cannot be computed. -/
def getByAge (c : Cache Number α) (now : Number) (key : String) :
    Except ArithmeticFault (Option α × Cache Number α) := do
  match c.entry? key with
  | some e => let _ ← age e now
  | none => pure ()
  return c.get now key

/-- A sweep that fails where the age of any entry cannot be computed. -/
def sweepByAge (c : Cache Number α) (now : Number) :
    Except ArithmeticFault (Nat × Cache Number α) := do
  for (_, e) in c.entries do
    let _ ← age e now
  return c.sweep now

end Cache
end MetricDesk
