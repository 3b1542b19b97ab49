import MetricDesk.Failure
import MetricDesk.Json.Writer
import MetricDesk.Plan.Basic
import MetricDesk.Text.Case

/-! Keys of cached plans and results. A plan is kept under its question, without regard to case
and punctuation; a result under its tenant and its plan, without regard to the order of keys. -/
namespace MetricDesk.Key

/-- A function that stands for texts by short ones. -/
abbrev Digest := String → String

/-- Characters that questions differ by. -/
def counts (c : Char) : Bool := ('a' ≤ c && c ≤ 'z') || c.isDigit

/-- Every run of other characters as one space. `inGap` says that one has just been written. -/
def collapsed (inGap : Bool) : List Char → List Char
  | [] => []
  | c :: cs =>
    if counts c then c :: collapsed false cs
    else if inGap then collapsed true cs
    else ' ' :: collapsed true cs

/-- A question in lower case, words and numbers only, with single spaces between them. -/
def normalized (question : String) : String :=
  String.ofList (Text.trimmed (collapsed false (Text.lower question).toList))

def plan (digest : Digest) (question : String) : String :=
  digest ("ai|plan|" ++ normalized question)

/-- The one text of a value, whatever the order of its keys. -/
def canonical (v : Value) : String := Json.text Json.canonical (Json.sorted v)

def content (digest : Digest) (v : Value) : String := digest (canonical v)

/-- The digest of a value, if all of it has a JSON form. -/
def contentOf (digest : Digest) (v : Value) : Except Failure String :=
  match Json.foreign? (Json.sorted v) with
  | some kind => .error (.notSerializable kind)
  | none => .ok (content digest v)

def resultText (tenant content : String) : String := "ai|result|" ++ tenant ++ "|" ++ content

def result (digest : Digest) (tenant : String) (v : Value) : String :=
  digest (resultText tenant (content digest v))

end MetricDesk.Key
