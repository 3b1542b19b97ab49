import MetricDesk.Failure
import MetricDesk.Settings.Basic

/-! Providers of language models: what a request to one of them says, and where the text of its
reply stands. -/
namespace MetricDesk.Client

inductive Provider where
  | openai
  | anthropic
  deriving DecidableEq, Repr

/-- What an answer is for. -/
inductive Purpose where
  | planner
  | narrator
  deriving DecidableEq, Repr

namespace Purpose

def name : Purpose → String
  | .planner => "planner"
  | .narrator => "narrator"

/-- What every request for it says first. -/
def instruction : Purpose → String
  | .planner => "Return JSON only."
  | .narrator => "Return a concise answer."

/-- How freely it may be answered, in tenths. -/
def temperature : Purpose → Nat
  | .planner => 1
  | .narrator => 2

end Purpose

structure Request where
  provider : Provider
  model : String
  instruction : String
  prompt : String
  maxTokens : Value
  /-- In tenths. -/
  temperature : Nat

/-- The parts of a reply; a part may have no text. -/
abbrev Reply := List (Option String)

namespace Provider

def name : Provider → String
  | .openai => "openai"
  | .anthropic => "anthropic"

def all : List Provider := [.openai, .anthropic]

def ofName? (s : String) : Option Provider := all.find? (·.name == s)

/-- The setting that holds the key. -/
def keyName : Provider → String
  | .openai => "OPENAI_API_KEY"
  | .anthropic => "ANTHROPIC_API_KEY"

def key (s : Settings) : Provider → String
  | .openai => s.openaiKey
  | .anthropic => s.anthropicKey

/-- One provider has one model for both purposes, the other has one for each. -/
def model (s : Settings) : Provider → Purpose → String
  | .anthropic, _ => s.anthropicModel
  | .openai, .planner => s.plannerModel
  | .openai, .narrator => s.narratorModel

/-- The text of a reply: that of its first part, or all parts together. -/
def textOf : Provider → Reply → String
  | .openai, reply => (reply.head?.bind id).getD ""
  | .anthropic, reply => String.join (reply.map (·.getD ""))

end Provider
end MetricDesk.Client
