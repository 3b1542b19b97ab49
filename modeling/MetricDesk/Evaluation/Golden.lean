import MetricDesk.Failure
import MetricDesk.Text.Blank

/-! Golden files: questions beside what planning them is expected to give, one to a line as JSON.
An expectation stands as the file has it, of whatever kind of value it is. -/
namespace MetricDesk

structure Golden where
  question : String
  /-- What the file says about rejection; anything that is not empty asks for it. -/
  rejection : Value
  metric : Value
  breakdowns : Value
  comparison : Value
  /-- The length of the window, where the question states one. -/
  days : Option Value

namespace Golden

/-- Characters that end a line. -/
def breaks : List Char := ['\n', '\r', '\x0b', '\x0c', '\x1c', '\x1d', '\x1e', '\x85', '\u2028',
  '\u2029']

/-- The lines of a text, of which those that are blank hold nothing. -/
def lines (text : List Char) : List (List Char) :=
  (text.splitOnP breaks.contains).filter fun line => !(Text.trimmed line).isEmpty

def readLine (line : List Char) : Except Failure Value :=
  match Json.read line with
  | .ok v => .ok v
  | .error (.syntaxAt reason offset) =>
    .error (.undecodable reason (Json.lineOf line offset) (Json.columnOf line offset) offset)
  | .error (.tooManyDigits count) => .error (.tooManyDigits count)
  | .error (.tooDeep container) => .error (.tooDeep container)

/-- The entries of a file. One line that is no JSON spoils the file. -/
def read (text : String) : Except Failure (List Value) := (lines text.toList).mapM readLine

/-- What is under a key, or what stands in where there is nothing. -/
def under (fields : Fields) (key : String) (otherwise : Value) : Value :=
  (fields.get? key).getD otherwise

def rejectionOf (fields : Fields) : Value := under fields "expect_rejected" (.bool false)

/-- Fields that ask for rejection. -/
def asksRejection (fields : Fields) : Bool := !(rejectionOf fields).isEmpty

/-- An entry asks for rejection if its fields do. -/
def entryAsks : Value → Bool
  | .obj fields => asksRejection fields
  | _ => false

/-- The expectations of an entry about a question. -/
def about (question : String) (fields : Fields) : Golden where
  question := question
  rejection := rejectionOf fields
  metric := under fields "expected_metric" .null
  breakdowns := under fields "expected_breakdowns" (.list [])
  comparison := under fields "expected_comparison" (.str Comparison.none.name)
  days := fields.get? "expected_n"

/-- An entry as a golden question. It has to have fields, among them a question, and the question
has to be a text; `operation` is what is first done to it. -/
def ofEntry (operation : String) : Value → Except Failure Golden
  | .obj fields =>
    match Fields.get? fields "question" with
    | some (.str question) => .ok (about question fields)
    | some v => .error (.noOperation v.kind operation)
    | none => .error (.missingKey "question")
  | v => .error (.noFields v.kind)

/-! ### The golden questions -/

/-- An entry that expects a plan. -/
def expecting (question : String) (metric : Metric) (breakdowns : List Breakdown)
    (comparison : Comparison) (days : Nat) : Value := .obj [
  ("question", .str question),
  ("expected_metric", .str metric.name),
  ("expected_breakdowns", .list (breakdowns.map fun b => .str b.name)),
  ("expected_comparison", .str comparison.name),
  ("expected_n", .nat days)]

/-- An entry that expects rejection. -/
def rejecting (question : String) : Value :=
  .obj [("question", .str question), ("expect_rejected", .bool true)]

/-- The questions that the planner is held to. -/
def standard : List Value := [
  expecting "What was revenue over the last 7 days compared to the previous period?"
    .revenue [] .previousPeriod 7,
  expecting "Why did revenue drop last week by country?" .revenue [.country] .previousPeriod 7,
  expecting "Show DAU by platform for the last 14 days" .dau [.platform] .none 14,
  expecting "How many installs did we get in the past 30 days?" .installs [] .none 30,
  expecting "What is our d1 retention over the last 4 weeks?" .d1Retention [] .none 28,
  expecting "What was ARPDAU last month?" .arpdau [] .none 30,
  expecting "Show d7 retention by country for the past 2 weeks" .d7Retention [.country] .none 14,
  expecting "Compare daily active users vs the previous period" .dau [] .previousPeriod 30,
  expecting "Revenue by platform over the last 10 days" .revenue [.platform] .none 10,
  expecting "Which countries drove the revenue increase in the last 14 days?"
    .revenue [.country] .previousPeriod 14,
  rejecting "What was ARPDAU by country last week?"]

end Golden
end MetricDesk
