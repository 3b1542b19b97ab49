import MetricDesk.Number.Reading
import MetricDesk.Settings.Basic
import MetricDesk.Text.Case
import MetricDesk.Text.Scan

/-! Reading settings from an environment, whose values are texts, and from arguments, which win
over it. Everything wrong is reported, setting by setting. -/
namespace MetricDesk.Settings

/-- What is wrong with the value of a setting. -/
inductive Fault where
  | notText
  | notWhole
  | unreadableWhole
  | tooLargeWhole
  | fraction
  | notFinite
  | notReal
  | unreadableReal
  /-- There is no such setting. -/
  | unknown
  deriving DecidableEq, Repr

def Fault.message : Fault → String
  | .notText => "Input should be a valid string"
  | .notWhole => "Input should be a valid integer"
  | .unreadableWhole => "Input should be a valid integer, unable to parse string as an integer"
  | .tooLargeWhole => "Unable to parse input string as an integer, exceeded maximum size"
  | .fraction => "Input should be a valid integer, got a number with a fractional part"
  | .notFinite => "Input should be a finite number"
  | .notReal => "Input should be a valid number"
  | .unreadableReal => "Input should be a valid number, unable to parse string as a number"
  | .unknown => "Extra inputs are not permitted"

/-- A fault in the setting of a name. -/
structure Problem where
  name : String
  fault : Fault
  deriving DecidableEq

/-! ### Numbers in texts -/

/-- Underscores taken out, none of them at an end or beside another. -/
def withoutUnderscores (cs : List Char) : Option (List Char) :=
  if cs.head? = some '_' || cs.getLast? = some '_' || Text.occurs ['_', '_'] cs then none
  else some (cs.filter (· != '_'))

/-- Zeros and underscores in front, down to the last zero before a point or an end. -/
def withoutZeros : List Char → List Char
  | '0' :: rest =>
    let skipped := rest.takeWhile fun c => c = '0' || c = '_'
    let after := rest.dropWhile fun c => c = '0' || c = '_'
    match after with
    | [] | '.' :: _ => (('0' :: skipped).getLast?).toList ++ after
    | _ => after
  | cs => cs

/-- A fraction of some zeros and nothing else taken off. -/
def withoutZeroFraction (cs : List Char) : List Char :=
  match cs.dropWhile (· != '.') with
  | '.' :: c :: part => if (c :: part).all (· = '0') then cs.takeWhile (· != '.') else cs
  | _ => cs

/-- Digits from a text that begins with one: single underscores may stand between them and a
fraction of zeros behind them. -/
def plainDigits? (cs : List Char) : Option (List Char) :=
  if (cs.head?.map Char.isDigit).getD false then
    withoutUnderscores (withoutZeroFraction (withoutZeros cs))
  else none

/-- The digits of a whole number in a text, behind a minus sign if it has one. Zeros in front of
the sign count for nothing. -/
def wholeDigits? (s : String) : Option (List Char) :=
  match Reading.withoutMargins s.toList with
  | '+' :: rest => plainDigits? rest
  | '-' :: rest => (plainDigits? rest).map ('-' :: ·)
  | cs => plainDigits? cs

/-- The most digits that a whole number may have. -/
def wholeLimit : Nat := 4300

/-- The whole number that a text spells. -/
def wholeOfText (s : String) : Except Fault Int :=
  match wholeDigits? s with
  | none => .error .unreadableWhole
  | some plain =>
    let (neg, ds) := match plain with
      | '-' :: rest => (true, rest)
      | _ => (false, plain)
    if ds.isEmpty || !ds.all Char.isDigit then .error .unreadableWhole
    else if wholeLimit < ds.length then .error .tooLargeWhole
    else .ok (if neg then -(Reading.naturalOf ds : Int) else Reading.naturalOf ds)

/-- A decimal or a word for what is no finite number. -/
def plainReal? (cs : List Char) : Option Double :=
  let (neg, body) := Reading.sign cs
  (Reading.decimal neg body).orElse fun _ => Reading.word neg body

/-- The double that a text spells; with underscores it may have no white space around it. -/
def real? (s : String) : Option Double :=
  (plainReal? (Reading.withoutMargins s.toList)).orElse fun _ =>
    (withoutUnderscores s.toList).bind plainReal?

/-! ### Values of settings -/

def textOf : Value → Except Fault String
  | .str s => .ok s
  | _ => .error .notText

/-- Doubles count where they are whole and fit into sixty-four bits. -/
def wholeOf : Value → Except Fault Int
  | .num (.int n) => .ok n
  | .bool b => .ok b.toNat
  | .num (.dbl x) =>
    match x.toInt? with
    | none => .error .notFinite
    | some n =>
      if !x.isWhole then .error .fraction
      else if -Int.pow 2 63 < n ∧ n < Int.pow 2 63 then .ok n
      else .error .tooLargeWhole
  | .str s => wholeOfText s
  | _ => .error .notWhole

def realOf : Value → Except Fault Double
  | .num n =>
    match n.toDouble with
    | .ok x => .ok x
    | .error _ => .error .notReal
  | .bool b => .ok (.ofInt b.toNat)
  | .str s =>
    match real? s with
    | some x => .ok x
    | none => .error .unreadableReal
  | _ => .error .notReal

/-- A setting among those given; the usual value where it is not, or where it is at fault. -/
def setting (given : Fields) (of : Value → Except Fault α) (name : String) (usual : α) :
    StateM (List Problem) α := fun problems =>
  match given.get? name with
  | none => (usual, problems)
  | some v =>
    match of v with
    | .ok a => (a, problems)
    | .error fault => (usual, problems ++ [⟨name, fault⟩])

/-- Settings from what is given, with what is wrong among it. -/
def ofGiven (given : Fields) : StateM (List Problem) Settings := do
  let text := setting given textOf
  let whole := setting given wholeOf
  let real := setting given realOf
  return {
    databaseUser := ← text "postgres_user" default.databaseUser
    databasePassword := ← text "postgres_password" default.databasePassword
    databaseName := ← text "postgres_db" default.databaseName
    databaseHost := ← text "postgres_host" default.databaseHost
    databasePort := ← whole "postgres_port" default.databasePort
    sqlTimeout := ← whole "sql_timeout_ms" default.sqlTimeout
    provider := ← text "llm_provider" default.provider
    openaiKey := ← text "openai_api_key" default.openaiKey
    anthropicKey := ← text "anthropic_api_key" default.anthropicKey
    plannerModel := ← text "ai_planner_model" default.plannerModel
    narratorModel := ← text "ai_narrator_model" default.narratorModel
    anthropicModel := ← text "anthropic_model" default.anthropicModel
    plannerTokens := ← whole "ai_planner_max_tokens" default.plannerTokens
    shortTokens := ← whole "ai_short_max_tokens" default.shortTokens
    deepTokens := ← whole "ai_deep_max_tokens" default.deepTokens
    planTtl := ← real "ai_plan_cache_ttl_seconds" default.planTtl
    resultTtl := ← real "ai_result_cache_ttl_seconds" default.resultTtl
    cacheSize := ← whole "ai_cache_max_size" default.cacheSize
    requestBudget := ← real "ai_request_timeout_seconds" default.requestBudget
    apiPort := ← whole "api_port" default.apiPort
    logLevel := ← text "log_level" default.logLevel }

/-- The setting of a name, which may be in any case. -/
def name? (given : String) : Option String :=
  let lower := Text.lower given
  if names.contains lower then some lower else none

/-- The settings among what is given, the last of one name. -/
def givenIn (given : Fields) : Fields :=
  Fields.ofEntries (given.filterMap fun (k, v) => (name? k).map fun name => (name, v))

/-- An argument without a setting is a fault. -/
def unknowns (arguments : Fields) : List Problem :=
  (arguments.keys.filter fun k => (name? k).isNone).map (⟨·, .unknown⟩)

/-- Settings, or everything that is wrong with them. -/
def read (environment arguments : Fields) : Except (List Problem) Settings :=
  let (settings, problems) := ofGiven (givenIn (environment ++ arguments)) []
  let found := problems ++ unknowns arguments
  if found.isEmpty then .ok settings else .error found

end MetricDesk.Settings
