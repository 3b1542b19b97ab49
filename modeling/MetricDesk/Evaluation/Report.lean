import MetricDesk.Calendar.Moment
import MetricDesk.Evaluation.Score
import MetricDesk.Json.Writer
import MetricDesk.Number.Layout

/-! The report of an evaluation, in Markdown: what went right out of how many, how long it took,
one row for each question, and what is known about the failures. -/
namespace MetricDesk

/-- A score, and the milliseconds that planning took. -/
structure Timed where
  score : Score
  latency : Nat

/-! ### Counts -/

/-- So many out of so many. -/
structure Share where
  hits : Nat
  total : Nat
  deriving DecidableEq, Repr

namespace Share

def of (f : α → Bool) (xs : List α) : Share := ⟨xs.countP f, xs.length⟩

/-- Out of none none is hit. -/
def percent (s : Share) : Double :=
  if s.total = 0 then .zero
  else (Double.ofRatio false s.hits s.total).mul (Double.ofInt 100)

def percentText (s : Share) : String := s.percent.fixed 0 ++ "%"

/-- `hits/total`. -/
def text (s : Share) : String := toString s.hits ++ "/" ++ toString s.total

end Share

/-- What an evaluation comes to. Questions that are expected to be rejected are counted apart from
those that are expected to have a plan. -/
structure Tally where
  success : Share
  metric : Share
  breakdowns : Share
  comparison : Share
  window : Share
  rejected : Share
  deriving DecidableEq, Repr

namespace Tally

/-- Scores whose questions ask for rejection, or for none. Scores without a question are left
out. -/
def asking (rejection : Bool) (scores : List Score) (asks : List Bool) : List Score :=
  ((scores.zip asks).filter (·.2 == rejection)).map (·.1)

/-- Scores in the order of their questions, and of each question whether it asks for rejection. -/
def of (scores : List Score) (asks : List Bool) : Tally :=
  let planned := asking false scores asks
  { success := .of Score.passed scores
    metric := .of (·.checks.metric) planned
    breakdowns := .of (·.checks.breakdowns) planned
    comparison := .of (·.checks.comparison) planned
    window := .of (·.checks.window) planned
    rejected := .of (·.rejected) (asking true scores asks) }

end Tally

/-! ### Latencies -/

/-- Mean, median and ninety-fifth percentile of latencies, all zero where there are none. -/
structure Latency where
  mean : Double
  median : Nat
  high : Nat
  deriving DecidableEq

namespace Latency

/-- The place of the ninety-fifth percentile among so many, which the last one bounds. -/
def highPlace (count : Nat) : Nat :=
  let place := ((Double.ofInt count).mul (Double.ofRatio false 95 100)).toInt?.getD 0
  min place.toNat (count - 1)

def of (latencies : List Nat) : Latency :=
  let sorted := latencies.mergeSort
  let count := sorted.length
  { mean := Double.ofRatio false (sorted.foldl (· + ·) 0) (max count 1)
    median := sorted[count / 2]?.getD 0
    high := sorted[highPlace count]?.getD 0 }

end Latency

/-! ### The report -/

namespace Report

/-- The longest question that a row shows whole. -/
def shownLength : Nat := 55

def shortened (question : String) : String :=
  let cs := question.toList
  if shownLength < cs.length then String.ofList (cs.take shownLength) ++ "..." else question

def mark (good : Bool) : String := if good then "OK" else "ERROR"

/-- Cells between bars. -/
def row (cells : List String) : String := "| " ++ " | ".intercalate cells ++ " |"

/-- The row of a question that was rejected. -/
def rejectedRow (number : Nat) (question : String) (passed : Bool) : String :=
  row [toString number, shortened question, "--", "--", "--", "--", mark passed ++ " (rejected)"]

/-- The row of a question with a plan. -/
def plannedRow (number : Nat) (question : String) (checks : Checks) (passed : Bool) : String :=
  row (toString number :: shortened question
    :: [checks.metric, checks.breakdowns, checks.comparison, checks.window, passed].map mark)

def scoreRow (number : Nat) (s : Score) : String :=
  if s.rejected then rejectedRow number s.question s.passed
  else plannedRow number s.question s.checks s.passed

def shareRow (name : String) (s : Share) : String :=
  row [name, "**" ++ s.percentText ++ "** (" ++ s.text ++ ")"]

/-- A text between the marks of code. -/
def code (s : String) : String := "\x60" ++ s ++ "\x60"

/-- The section of a question that failed, with its error and its plan where they are not empty. -/
def failure (number : Nat) (question : String) (error plan : Value) : List String :=
  ["### #" ++ toString number ++ ": " ++ question, ""]
    ++ (if error.isEmpty then [] else ["**Error:** " ++ code error.text])
    ++ (if plan.isEmpty then [] else ["**Plan:** " ++ code (Json.text Json.spaced plan)])
    ++ [""]

def scoreFailure (number : Nat) (s : Score) : List String :=
  failure number s.question ((s.error.map .str).getD .null) (s.plan.getD .null)

/-- The sections of all that failed. -/
def failures (sections : List (List String)) : List String :=
  ["## Failures", ""]
    ++ if sections.isEmpty then ["None -- all questions handled correctly."] else sections.flatten

/-- Day, hour and minute; the year is written with as many digits as it has. -/
def minute (m : Moment) : String :=
  let (month, day) := m.day.monthDay
  String.ofList (Digits.ofNat m.day.year ++ '-' :: Digits.padded 2 month ++ '-' ::
    Digits.padded 2 day ++ ' ' :: Digits.padded 2 m.hour ++ ':' :: Digits.padded 2 m.minute)

def summary (t : Tally) : List String := [
  "## Summary",
  "",
  row ["Check", "Value"],
  "|-------|-------|",
  shareRow "Overall success rate" t.success,
  shareRow "Metric correctness" t.metric,
  shareRow "Breakdown correctness" t.breakdowns,
  shareRow "Comparison correctness" t.comparison,
  shareRow "Window correctness" t.window,
  shareRow "Invalid plans rejected" t.rejected,
  ""]

/-- Mean, median and ninety-fifth percentile. -/
def latency (mean median high : String) : List String := [
  "## Latency",
  "",
  row ["Stat", "ms"],
  "|------|-----|",
  row ["Mean", mean],
  row ["p50", median],
  row ["p95", high],
  ""]

def results (rows : List String) : List String := [
  "## Per-Question Results",
  "",
  row ["#", "Question", "Metric", "Breakdowns", "Comparison", "Window", "Pass"],
  "|---|----------|--------|------------|------------|--------|------|"] ++ rows ++ [""]

def header (now : Moment) (questions : Nat) (mode : String) : List String := [
  "# Planner Evaluation Report",
  "",
  "> Generated: " ++ minute now ++ "  |  Questions: **" ++ toString questions ++ "**  |  Mode: "
    ++ code mode,
  ""]

/-- The report of an evaluation made at a moment in a mode. -/
def text (now : Moment) (mode : String) (runs : List Timed) (asks : List Bool) : String :=
  let scores := runs.map (·.score)
  let times := Latency.of (runs.map (·.latency))
  let numbered := scores.zipIdx 1
  "\n".intercalate (header now scores.length mode
    ++ summary (.of scores asks)
    ++ latency (times.mean.fixed 0) (toString times.median) (toString times.high)
    ++ results (numbered.map fun (s, number) => scoreRow number s)
    ++ failures ((numbered.filter (!·.1.passed)).map fun (s, number) => scoreFailure number s))

end Report
end MetricDesk
