import MetricDesk.Client.Provider
import MetricDesk.Model
import MetricDesk.Text.Blank
import MetricDesk.Text.Case

/-! A client of a provider's model. Its connection is opened by the first request and reused until
the client is closed; a client without a key never opens one. -/
namespace MetricDesk

/-- Who answers, and with which settings; without a provider nobody does. -/
structure Client where
  provider : Option Client.Provider
  settings : Settings

namespace Client

inductive Event where
  | opened (provider : Provider) (key : String)
  | sent (request : Request)
  | closed (provider : Provider)

/-- Whether a connection is open, and what has happened on all of them. -/
structure State where
  isOpen : Bool
  events : List Event

def State.initial : State := ⟨false, []⟩

/-- A provider's own library, as far as it can be seen: it may be missing, and it answers a request
after what has happened before. -/
structure Library where
  installed : Bool
  answer : List Event → Request → Except Failure Reply

/-- The client of a provider by its name in any case, an empty name being the one in the
settings. -/
def ofName (name : String) (s : Settings) : Except Failure Client :=
  let chosen := Text.lower (if name.isEmpty then s.provider else name)
  if chosen = Mode.rulesName then .ok ⟨none, s⟩
  else match Provider.ofName? chosen with
    | some p => .ok ⟨some p, s⟩
    | none => .error (.unknownProvider chosen (Provider.all.map (·.name)))

def name (c : Client) : String := (c.provider.map Provider.name).getD Mode.rulesName

def key (c : Client) : String := (c.provider.map (·.key c.settings)).getD ""

def enabled (c : Client) : Bool := !c.key.isEmpty

/-- The line that is logged for a client that will never answer. -/
def warning? (c : Client) : Option String :=
  if c.enabled then none
  else some ("LLM provider=" ++ c.name ++ " has no API key -- AI planner/narrator disabled")

def request (c : Client) (p : Provider) (purpose : Purpose) (prompt : String) (maxTokens : Value) :
    Request where
  provider := p
  model := p.model c.settings purpose
  instruction := purpose.instruction
  prompt := prompt
  maxTokens := maxTokens
  temperature := purpose.temperature

/-- An open connection; it cannot be opened where the library is missing. -/
def connect (library : Library) (p : Provider) (key : String) : Dialogue State Unit := fun s =>
  if s.isOpen then (.ok (), s)
  else if library.installed then (.ok (), ⟨true, s.events ++ [.opened p key]⟩)
  else (.error (.packageMissing p.name), s)

/-- A request is an event whether it is answered or not. -/
def send (library : Library) (r : Request) : Dialogue State Reply := fun s =>
  (library.answer s.events r, { s with events := s.events ++ [.sent r] })

/-- A text without white space around it; one of nothing else is no answer. -/
def answered (purpose : Purpose) (text : String) : Except Failure String :=
  let stripped := Text.strip text
  if stripped.isEmpty then .error (.noResponse purpose.name) else .ok stripped

def complete (c : Client) (library : Library) (purpose : Purpose) (prompt : String)
    (maxTokens : Value) : Dialogue State String :=
  match c.provider with
  | none => throw (.disabled .provider)
  | some p =>
    if c.enabled then do
      connect library p c.key
      let reply ← send library (c.request p purpose prompt maxTokens)
      liftM (answered purpose (p.textOf reply))
    else throw (.disabled (.key p.keyName))

/-- The connection given back, if one is open. -/
def close (c : Client) (s : State) : State :=
  match c.provider with
  | some p => if s.isOpen then ⟨false, s.events ++ [.closed p]⟩ else s
  | none => s

/-- The client as its callers see it. -/
def model (c : Client) (library : Library) : Model State where
  provider := c.name
  enabled := c.enabled
  json := c.complete library .planner
  text := c.complete library .narrator

end Client
end MetricDesk
