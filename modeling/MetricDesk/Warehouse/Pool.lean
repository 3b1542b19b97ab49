import MetricDesk.Warehouse.Connection

/-! The pool of connections. It is opened when the first connection is needed and stays open
until it is disposed of. -/
namespace MetricDesk.Warehouse

inductive PoolEvent where
  | opened
  | disposed
  /-- A connection was used, with this history. -/
  | used (history : List Act)

structure Pool where
  isOpen : Bool
  events : List PoolEvent

namespace Pool

/-- Connections kept, and connections allowed beyond them. -/
def size : Nat := 5
def overflow : Nat := 10

def empty : Pool := ⟨false, []⟩

def opened (p : Pool) : Pool := if p.isOpen then p else ⟨true, p.events ++ [.opened]⟩

/-- Work on a connection of the pool. Work that never connects leaves the pool as it is. -/
def run (work : Connection.Work α) (p : Pool) : Except Failure α × Pool :=
  match work [] with
  | (found, []) => (found, p)
  | (found, history) => (found, ⟨true, p.opened.events ++ [.used history]⟩)

def dispose (p : Pool) : Pool := if p.isOpen then ⟨false, p.events ++ [.disposed]⟩ else p

end Pool
end MetricDesk.Warehouse
