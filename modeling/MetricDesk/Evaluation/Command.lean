import MetricDesk.Client.Basic
import MetricDesk.Evaluation.Report
import MetricDesk.Text.Digit

/-! The command that evaluates the planner: its options, the planner that they ask for, and what it
prints. -/
namespace MetricDesk.Command

/-! ### Options -/

/-- An argument as it is seen before its place is known. -/
inductive Argument where
  /-- The mode, with the text behind an equals sign if there is one. -/
  | mode (given : Option String)
  | help (given : Option String)
  /-- The start of more than one option. -/
  | ambiguous
  | text (s : String)
  /-- What looks like an option and is none, and the mark behind which there are no options. -/
  | unknown
  deriving DecidableEq, Repr

/-- What a command line asks for. -/
inductive Request where
  | evaluate (mode : String)
  | help
  | misused
  deriving DecidableEq, Repr

/-- A minus and a number, whole or with digits behind a point; one line end may follow. -/
def isNegative (s : String) : Bool :=
  match s.toList with
  | '-' :: rest =>
    let body := if rest.getLast? == some '\n' then rest.dropLast else rest
    let whole := body.takeWhile Text.isDigit
    match body.drop whole.length with
    | [] => !whole.isEmpty
    | '.' :: part => !part.isEmpty && part.all Text.isDigit
    | _ => false
  | _ => false

/-- An argument that starts with two minuses: an option by a start of its name that no other
option has, alone or with what follows an equals sign. -/
def long (s : String) : Argument :=
  let name := s.toList.takeWhile (· != '=')
  let given := ((s.toList.drop name.length).head?).map fun _ =>
    String.ofList (s.toList.drop (name.length + 1))
  match name.isPrefixOf "--mode".toList, name.isPrefixOf "--help".toList with
  | true, true => .ambiguous
  | true, false => .mode given
  | false, true => .help given
  | false, false => if s.toList.contains ' ' then .text s else .unknown

/-- The letters behind one that asks for help are options too, but what is behind an equals sign or
a minus belongs to none. -/
def helpWith : List Char → Argument
  | 'h' :: rest => helpWith rest
  | '=' :: rest => .help (some (String.ofList rest))
  | '-' :: rest => .help (some (String.ofList rest))
  | _ => .help none

/-- An argument that starts with one minus. -/
def short (s : String) : Argument :=
  match s.toList with
  | '-' :: 'h' :: rest => helpWith rest
  | _ => if isNegative s || s.toList.contains ' ' then .text s else .unknown

/-- An argument; a lone minus is a text. -/
def argument (s : String) : Argument :=
  match s.toList with
  | '-' :: '-' :: _ => long s
  | '-' :: _ :: _ => short s
  | _ => .text s

/-- The arguments of a command line. Behind two minuses on their own there are texts only. -/
def arguments : List String → List Argument
  | [] => []
  | "--" :: rest => .unknown :: rest.map .text
  | s :: rest => argument s :: arguments rest

/-- The request of arguments in order. An argument without a place spoils the command, but help is
given before that is noticed. -/
def request (mode : String) (stray : Bool) : List Argument → Request
  | [] => if stray then .misused else .evaluate mode
  | .mode (some given) :: rest => request given stray rest
  | .mode none :: .text given :: rest => request given stray rest
  | .mode none :: _ => .misused
  | .help none :: _ => .help
  | .help (some _) :: _ => .misused
  | .ambiguous :: _ => .misused
  | .text _ :: rest => request mode true rest
  | .unknown :: rest => request mode true rest

/-- The request of a command line. Without options the built-in rules are evaluated. -/
def ofWords (words : List String) : Request :=
  let args := arguments words
  if args.contains .ambiguous then .misused else request Mode.rulesName false args

/-! ### Work -/

/-- The planner of a mode. Every name but the one of the built-in rules takes a client, which has
to know the name. -/
def planner (s : Settings) (library : Client.Library) (mode : String) :
    Except Failure (Planner Client.State) := do
  let chosen := Mode.ofName (if mode.isEmpty then s.provider else mode)
  if mode = Mode.rulesName then return ⟨chosen, none, .int s.plannerTokens⟩
  let client ← Client.ofName mode s
  return ⟨chosen, some (client.model library), .int s.plannerTokens⟩

/-! ### What is printed -/

/-- How the command is used. -/
def usage : List String := [
  "usage: evaluate [-h] [--mode MODE]",
  "",
  "Evaluate the question planner",
  "",
  "options:",
  "  -h, --help   show this help message and exit",
  "  --mode MODE  mock | openai | anthropic"]

def shownLength : Nat := 60

/-- A text filled up with blanks behind it. -/
def padded (width : Nat) (cs : List Char) : List Char :=
  cs ++ List.replicate (width - cs.length) ' '

/-- A number filled up with blanks in front of it. -/
def aligned (width : Nat) (n : Nat) : List Char :=
  let ds := Digits.ofNat n
  List.replicate (width - ds.length) ' ' ++ ds

def verdict (s : Score) : String := if s.passed then "PASS" else "FAIL"

/-- The line of a question. -/
def line (number total : Nat) (r : Timed) : String :=
  "  [" ++ String.ofList (aligned 2 number) ++ "/" ++ toString total ++ "] " ++ verdict r.score
    ++ "  " ++ String.ofList (padded shownLength (r.score.question.toList.take shownLength))
    ++ "  " ++ String.ofList (aligned 4 r.latency) ++ "ms"

def rule : String := String.ofList (List.replicate 50 '=')

/-- What is printed of an evaluation whose report goes to a place. -/
def lines (runs : List Timed) (place : String) : List String :=
  let success := Share.of Score.passed (runs.map (·.score))
  (runs.zipIdx 1).map (fun (r, number) => line number runs.length r)
    ++ ["", "Report written to " ++ place, "", rule,
      "  Success: " ++ success.text ++ " (" ++ success.percentText ++ ")", rule]

end MetricDesk.Command
