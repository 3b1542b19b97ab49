import MetricDesk.Model
import MetricDesk.Value.Basic

/-! Connections to the warehouse. Everything asked of a connection is an act, and the acts so far
are its history. A read goes on inside a read-only transaction, which is rolled back whatever
becomes of the read. -/
namespace MetricDesk.Warehouse

inductive Act where
  | connect
  | begin
  /-- A statement, with what is bound to it if anything can be. -/
  | execute (text : String) (arguments : Option Fields)
  /-- The rows of the last statement are taken. -/
  | fetch
  | rollback
  | close

/-- Rows under the names of their columns. -/
structure Grid where
  columns : List String
  rows : List (List Value)

/-- What a database makes of an act after a history: it fails, or it answers with rows. -/
abbrev Database := List Act → Act → Except Failure Grid

namespace Connection

/-- Work on one connection; the state is its history. -/
abbrev Work (α : Type) := Dialogue (List Act) α

/-- An act is in the history whether it fails or not. -/
def act (db : Database) (a : Act) : Work Grid := fun history => (db history a, history ++ [a])

/-- Work, and after it, however it ends, more work, whose own failure comes first. -/
def andAlways (work : Work α) (after : Work Unit) : Work α := fun history =>
  let (found, history) := work history
  match after history with
  | (.ok (), history) => (found, history)
  | (.error failure, history) => (.error failure, history)

def readOnlyText : String := "SET TRANSACTION READ ONLY"

/-- The end of a transaction: nothing is kept, and the connection is given back. -/
def finish (db : Database) : Work Unit := do
  let _ ← act db .rollback
  let _ ← act db .close

/-- Work inside a read-only transaction on a connection of its own. -/
def readOnly (db : Database) (work : Work α) : Work α := do
  let _ ← act db .connect
  let _ ← act db .begin
  andAlways (do let _ ← act db (.execute readOnlyText none); work) (finish db)

end Connection
end MetricDesk.Warehouse
