import MetricDesk.Number.Reading
import MetricDesk.Series.Row
import MetricDesk.Warehouse.Connection
import MetricDesk.Warehouse.Reception
import MetricDesk.Warehouse.Statement

/-! Reading from the warehouse: one statement under a limit of time, its rows as plain values. -/
namespace MetricDesk.Warehouse

/-- A cell as a plain value: decimals become doubles, days and moments become text. -/
def plain : Value → Except Failure Value
  | .decimal x => (arithmetic x.toDouble).map .dbl
  | .day d => .ok (.str d.iso)
  | .moment m => .ok (.str m.iso)
  | v => .ok v

/-- A row under the names of its columns; of several columns of one name the last counts. -/
def Grid.fields (g : Grid) : Except Failure (List Fields) :=
  g.rows.mapM fun row => do
    return Fields.ofEntries (← (g.columns.zip row).mapM fun (k, v) => do return (k, ← plain v))

/-- A value as a whole number of milliseconds; a fraction is cut off. -/
def milliseconds : Value → Except Failure Int
  | .num (.int n) => .ok n
  | .bool b => .ok b.toNat
  | .num (.dbl x) => arithmetic x.whole
  | .str s =>
    match Reading.whole s with
    | .ok n => .ok n
    | .error .spelling => .error (.noWhole s)
    | .error (.tooManyDigits count) => .error (.tooManyDigits count)
  | v => .error (.noWholeKind v.kind)

/-- The limit of time in its textual form. -/
def limitText (n : Int) : String := "SET LOCAL statement_timeout = " ++ toString n

/-- The rows of a statement. The limit is a value as its caller gives it; where it is empty the
usual limit holds. -/
def read (db : Database) (usual : Int) (text : String) (arguments : Fields) (limit : Value) :
    Connection.Work (List Fields) :=
  Connection.readOnly db do
    let n ← liftM (milliseconds (if limit.isEmpty then .int usual else limit))
    let _ ← Connection.act db (.execute (limitText n) none)
    let answered ← Connection.act db (.execute (received text) (some arguments))
    let _ ← Connection.act db .fetch
    liftM answered.fields

/-- Whether the warehouse answers at all. A failure that is not the database's own is let
through. -/
def ping (db : Database) : Connection.Work Bool := fun history =>
  match Connection.readOnly db (Connection.act db (.execute "SELECT 1" none)) history with
  | (.ok _, history) => (.ok true, history)
  | (.error failure, history) =>
    if failure.kind = .statement then (.ok false, history) else (.error failure, history)

/-- A failure of the database, as the caller of a series sees it. -/
def failureOf (metric : String) (failure : Failure) : Failure :=
  if failure.kind = .statement then .queryFailed metric failure.message else failure

/-- The series of a query, as the warehouse has it. -/
def series (db : Database) (usual : Int) (limit : Value) (q : Query) :
    Connection.Work (List Fields) := do
  let s ← liftM (Statement.ofQuery q)
  fun history =>
    let (found, history) := read db usual s.text (Statement.arguments q) limit history
    (found.mapError (failureOf q.metric), history)

/-- The warehouse as a source of series, each read on a connection of its own. -/
def source (db : Database) (usual : Int) (limit : Value) : Source := fun q =>
  match (series db usual limit q []).1 with
  | .ok rows => .rows rows
  | .error failure => .fails failure

end MetricDesk.Warehouse
