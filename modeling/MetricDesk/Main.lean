import MetricDesk.Evaluation.Command
import MetricDesk.Settings.Reading
import Std.Time.Zoned

/-! The command line: the planner is held to the golden questions, and a report is written. -/
namespace MetricDesk.Main

def directory : String := "reports"

/-- Where the report goes. -/
def place : String := directory ++ "/eval_report.md"

/-- The library of a provider that is not there. -/
def library : Client.Library where
  installed := false
  answer _ _ := .error (.disabled .provider)

/-- The part of the environment that settings come from. -/
def environment : IO Fields := do
  let entries ← Settings.names.mapM fun name => do
    return ((← IO.getEnv name.toUpper).map fun v => (name, Value.str v)).toList
  return entries.flatten

/-- The moment by the local clock, to the minute. -/
def localTime : IO (Option Moment) := do
  let t ← Std.Time.PlainDateTime.now
  return (Date.ofCivil? t.year.toInt.toNat t.month.toInt.toNat t.day.toInt.toNat).map fun day =>
    ⟨day, t.hour.toInt.toNat, t.minute.toInt.toNat, 0, 0, none⟩

/-- The scores of entries, one after another, with the time that each of them took. -/
def timed (p : Planner Client.State) (day : String) :
    List Value → Client.State → IO (Except Failure (List Timed))
  | [], _ => return .ok []
  | entry :: entries, state => do
    let start ← IO.monoMsNow
    match p.score day entry state with
    | (.error failure, _) => return .error failure
    | (.ok score, state) =>
      let stop ← IO.monoMsNow
      return (← timed p day entries state).map (⟨score, stop - start⟩ :: ·)

def fail (words : String) : IO UInt32 := do
  IO.eprintln words
  return 1

/-- Evaluates the planner of a mode, prints what came of it and writes the report. -/
def evaluate (mode : String) : IO UInt32 := do
  match Settings.read (← environment) [], ← localTime with
  | .error problems, _ =>
    fail ("\n".intercalate (problems.map fun p => p.name ++ ": " ++ p.fault.message))
  | .ok _, none => fail "the clock shows no day of the calendar"
  | .ok settings, some now =>
    match Command.planner settings library mode with
    | .error failure => fail (failure.kind.name ++ ": " ++ failure.message)
    | .ok planner =>
      match ← timed planner now.day.iso Golden.standard .initial with
      | .error failure => fail (failure.kind.name ++ ": " ++ failure.message)
      | .ok runs =>
        IO.FS.createDirAll directory
        IO.FS.writeFile place (Report.text now mode runs (Golden.standard.map Golden.entryAsks))
        (Command.lines runs place).forM IO.println
        return 0

end MetricDesk.Main

def main (words : List String) : IO UInt32 := do
  match MetricDesk.Command.ofWords words with
  | .help =>
    MetricDesk.Command.usage.forM IO.println
    return 0
  | .misused =>
    MetricDesk.Command.usage.forM IO.eprintln
    return 2
  | .evaluate mode => MetricDesk.Main.evaluate mode
