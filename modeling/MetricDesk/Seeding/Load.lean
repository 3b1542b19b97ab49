import MetricDesk.Number.Digits
import MetricDesk.Seeding.Generation
import MetricDesk.Settings.Basic
import MetricDesk.Warehouse.Reception
import MetricDesk.Warehouse.Statement

/-! Loading the warehouse: tables are made where they are missing, the rows of the seeded games are
cleared, and new ones are inserted in batches. -/
namespace MetricDesk.Seeding

open Warehouse (identifier)

/-! ### Tables -/

structure Column where
  name : String
  /-- Type, and whatever else its definition says. -/
  definition : String

structure TableLayout where
  name : String
  columns : List Column

namespace TableLayout

def key : Column := ⟨"id", "TEXT PRIMARY KEY"⟩
def tenant : Column := ⟨"gameId", "TEXT NOT NULL"⟩
def dayColumn (name : String) : Column := ⟨name, "TIMESTAMPTZ NOT NULL"⟩
def amount (name : String) : Column := ⟨name, "DOUBLE PRECISION NOT NULL DEFAULT 0"⟩
def count (name : String) : Column := ⟨name, "INTEGER NOT NULL DEFAULT 0"⟩

/-- Where a segment is not known its columns are empty. -/
def segment : List Column :=
  [.platform, .country].map fun b => ⟨Warehouse.column b, "TEXT NOT NULL DEFAULT ''"⟩

def revenue : TableLayout where
  name := Warehouse.revenue.name
  columns := [key, tenant, dayColumn Warehouse.revenue.day, amount "totalRevenueUsd",
    amount "adRevenueUsd", amount "iapRevenueUsd"]

def activeUsers : TableLayout where
  name := Warehouse.activeUsers.name
  columns := [key, tenant, dayColumn Warehouse.activeUsers.day] ++ segment ++ [count "dau"]

def cohorts : TableLayout where
  name := "cohort_retention_daily"
  columns := [key, tenant, dayColumn "installDate", ⟨"dayIndex", "INTEGER NOT NULL"⟩] ++ segment
    ++ [count "cohortSize", count "retainedUsers"]

def all : List TableLayout := [revenue, activeUsers, cohorts]

/-- The statement that makes the table if it is missing, one column to a line. -/
def creation (t : TableLayout) : String :=
  let columns := t.columns.map fun c => identifier c.name ++ " " ++ c.definition
  "\n    CREATE TABLE IF NOT EXISTS " ++ identifier t.name ++ " (\n        "
    ++ ",\n        ".intercalate columns ++ "\n    )\n    "

end TableLayout

/-! ### Statements -/

/-- A statement that changes the warehouse. -/
inductive Change where
  | create (text : String)
  | delete (text : String) (games : List String)
  /-- The same statement for every row of a batch. -/
  | insert (text : String) (rows : List Fields)

def deletion (table : String) : String :=
  "DELETE FROM " ++ identifier table ++ " WHERE \"gameId\" = ANY(:ids)"

/-- A row that is there already stays. -/
def insertion (table : String) (columns : List String) : String :=
  "INSERT INTO " ++ identifier table ++ " (" ++ ", ".intercalate (columns.map identifier)
    ++ ") VALUES (" ++ ", ".intercalate (columns.map (":" ++ ·)) ++ ") ON CONFLICT DO NOTHING"

/-! ### Loads -/

/-- Transactions in order, and the lines that tell of them. -/
structure Load where
  transactions : List (List Change)
  lines : List String

namespace Load

def nothing : Load := ⟨[], []⟩

def line (s : String) : Load := ⟨[], [s]⟩

def transaction (changes : List Change) : Load := ⟨[changes], []⟩

/-- One load after another. -/
def andThen (a b : Load) : Load := ⟨a.transactions ++ b.transactions, a.lines ++ b.lines⟩

instance : Append Load := ⟨andThen⟩

/-- Rows in batches of `size + 1`, the last of which may be shorter. -/
def batches (size : Nat) : List Fields → List (List Fields)
  | [] => []
  | row :: rows => (row :: rows.take size) :: batches size (rows.drop size)
termination_by rows => rows.length
decreasing_by simp only [List.length_drop, List.length_cons]; omega

/-- Batches of a size. Of no size none can be made, and of a negative one there are none. -/
def batchesOf (rows : List Fields) : Int → Except Failure (List (List Fields))
  | .ofNat 0 => .error .emptyBatches
  | .ofNat (size + 1) => .ok (batches size rows)
  | .negSucc _ => .ok []

/-- Rows inserted into a table in one transaction, batch by batch. The columns are those of the
first row. -/
def rows (table : String) (rows : List Fields) (size : Int) : Except Failure Load :=
  match rows with
  | [] => .ok nothing
  | first :: _ => do
    let text := Warehouse.received (insertion table first.keys)
    let batches ← batchesOf rows size
    return transaction (batches.map (.insert text))
      ++ line ("  ✓ " ++ table ++ ": " ++ String.ofList (Digits.grouped rows.length) ++ " rows")

/-- How many rows a batch has. -/
def batchSize : Int := 2000

/-! ### The whole load -/

/-- The rows of one game, table by table. -/
def ofGame (c : Chance) (today : Date) (count : Int) (g : Game) : Draw Load := do
  let (active, revenue) ← activity c today count g
  let users ← liftM (rows TableLayout.activeUsers.name (active.map (·.toFields)) batchSize)
  let money ← liftM (rows TableLayout.revenue.name (revenue.map (·.toFields)) batchSize)
  let found ← cohorts c today count g
  let kept ← liftM (rows TableLayout.cohorts.name (found.map (·.toFields)) batchSize)
  return users ++ money ++ kept

/-- Tables, games, and the rows of so many days up to a day. -/
def whole (c : Chance) (today : Date) (count : Int) (games : Nat) : Draw Load := do
  let games ← (List.replicate games ()).mapM fun _ => game c
  let names := games.map (·.name)
  let loads ← games.mapM (ofGame c today count)
  return line "═══ Telemetry Seed Generator ═══"
    ++ transaction (TableLayout.all.map fun t => .create t.creation)
    ++ line "Clearing previous rows for seeded games …"
    ++ transaction (TableLayout.all.map fun t => .delete (deletion t.name) names)
    ++ line "Generating and inserting …"
    ++ loads.foldl andThen nothing
    ++ line ("\nDone — seeded " ++ toString count ++ " days for games: " ++ ", ".intercalate names)

end Load

/-! ### The warehouse to load -/

/-- An entry of the environment, and what stands in for it. -/
def entry (environment : List (String × String)) (name usual : String) : String :=
  (environment.lookup name).getD usual

/-- Where the warehouse is. Entries are taken as they are. -/
def databaseUrl (environment : List (String × String)) : String :=
  let s := Settings.default
  "postgresql://" ++ entry environment "POSTGRES_USER" s.databaseUser
    ++ ":" ++ entry environment "POSTGRES_PASSWORD" s.databasePassword
    ++ "@" ++ entry environment "POSTGRES_HOST" s.databaseHost
    ++ ":" ++ entry environment "POSTGRES_PORT" (toString s.databasePort)
    ++ "/" ++ entry environment "POSTGRES_DB" s.databaseName

end MetricDesk.Seeding
