import MetricDesk.Http.Address
import MetricDesk.Plan.Violation
import MetricDesk.Json.Reader
import MetricDesk.Template.Fault

/-! Failures: why a request, or a step of one, has no answer. Each cause has its kind, which
callers see by name, and its words. -/
namespace MetricDesk

namespace Failure

/-- The kinds of failure. Those of the first group are the service's own. -/
inductive Kind where
  | capabilityDisabled
  | noResponse
  | schemaValidation
  | planParse
  | dataSource
  | narrationIntegrity
  | requestTimeout
  | general
  | value
  | type
  | overflow
  | key
  | zeroDivision
  | runtime
  | notImplemented
  | jsonDecode
  | attribute
  | statement
  | address
  | encoding
  | hostName
  | hostCharacter
  | hostContext
  | hostDirection
  | invalidDecimal
  | decimalOverflow
  | decimalZeroDivision
  | memory
  | recursion
  deriving DecidableEq, Repr

/-- The name under which callers see the kind. -/
def Kind.name : Kind → String
  | .capabilityDisabled => "CapabilityDisabledError"
  | .noResponse => "NoResponseError"
  | .schemaValidation => "SchemaValidationError"
  | .planParse => "PlanParseError"
  | .dataSource => "DataSourceError"
  | .narrationIntegrity => "NarrationIntegrityViolation"
  | .requestTimeout => "RequestTimeoutError"
  | .general => "CopilotError"
  | .value => "ValueError"
  | .type => "TypeError"
  | .overflow => "OverflowError"
  | .key => "KeyError"
  | .zeroDivision => "ZeroDivisionError"
  | .runtime => "RuntimeError"
  | .notImplemented => "NotImplementedError"
  | .jsonDecode => "JSONDecodeError"
  | .attribute => "AttributeError"
  | .statement => "SQLAlchemyError"
  | .address => "InvalidURL"
  | .encoding => "UnicodeEncodeError"
  | .hostName => "IDNAError"
  | .hostCharacter => "InvalidCodepoint"
  | .hostContext => "InvalidCodepointContext"
  | .hostDirection => "IDNABidiError"
  | .invalidDecimal => "InvalidOperation"
  | .decimalOverflow => "Overflow"
  | .decimalZeroDivision => "DivisionByZero"
  | .memory => "MemoryError"
  | .recursion => "RecursionError"

def Kind.all : List Kind := [.capabilityDisabled, .noResponse, .schemaValidation, .planParse,
  .dataSource, .narrationIntegrity, .requestTimeout, .general, .value, .type, .overflow, .key,
  .zeroDivision, .runtime, .notImplemented, .jsonDecode, .attribute, .statement, .address,
  .encoding, .hostName, .hostCharacter, .hostContext, .hostDirection, .invalidDecimal,
  .decimalOverflow, .decimalZeroDivision, .memory, .recursion]

def Kind.ofName? (s : String) : Option Kind := all.find? (·.name == s)

/-- Why a text cannot be repeated so often. -/
inductive Repetition where
  | countTooLarge
  | resultTooLong
  /-- The result would not fit anywhere. -/
  | noRoom
  deriving DecidableEq, Repr

def Repetition.message : Repetition → String
  | .countTooLarge => "cannot fit 'int' into an index-sized integer"
  | .resultTooLong => "repeated string is too long"
  | .noRoom => ""

/-- The service's own failures, which it answers; all others it lets through. -/
def Kind.isOwn : Kind → Bool
  | .capabilityDisabled | .noResponse | .schemaValidation | .planParse | .dataSource
  | .narrationIntegrity | .requestTimeout | .general => true
  | _ => false

end Failure

/-- What has to be configured before the model can be asked. -/
inductive Need where
  /-- The model's client itself. -/
  | client
  /-- The API key of a provider, by the name of its setting. -/
  | key (name : String)
  /-- Some provider other than the built-in rules. -/
  | provider
  deriving DecidableEq, Repr

def Need.message : Need → String
  | .client => "AI features are disabled. No completion client configured."
  | .key name => "AI features are disabled. Please configure " ++ name ++ "."
  | .provider => "AI features are disabled. Please configure an LLM provider."

inductive Failure where
  | arithmetic (fault : ArithmeticFault)
  | calendar (fault : CalendarFault)
  | address (fault : Http.AddressFault)
  | template (fault : Template.Fault)
  /-- A plan or a result breaks its grammar. -/
  | schema (violations : List Violation)
  /-- The planner's reply is no JSON, from a line on. -/
  | unparsable (reason : Json.Reason) (line : Nat)
  /-- A document is no JSON, at a place. -/
  | undecodable (reason : Json.Reason) (line column offset : Nat)
  | tooManyDigits (count : Nat)
  /-- A document with a container inside of too many others. -/
  | tooDeep (container : Json.Container)
  /-- A text that spells no double. -/
  | noDouble (text : String)
  /-- A kind of value that has no number. -/
  | noNumber (kind : String)
  /-- A text that spells no whole number. -/
  | noWhole (text : String)
  /-- A kind of value that has no whole number. -/
  | noWholeKind (kind : String)
  | operands (operator left right : String)
  /-- Two kinds of value that have no order. -/
  | unordered (left right : String)
  /-- A day was compared to a moment. -/
  | dayBesideMoment
  /-- Only one of two moments is at a known distance from universal time. -/
  | zoneBesideNone (verb : String)
  /-- A kind of value that does not say how often to repeat a text or a list. -/
  | notCount (kind : String)
  | repetition (fault : Failure.Repetition)
  /-- A kind of value that counts nothing. -/
  | noIndex (kind : String)
  /-- A text was to be put behind a list. -/
  | textBehindList
  | unhashable (kind : String)
  /-- What signals was looked up. -/
  | signalAsKey
  | notSerializable (kind : String)
  | notIterable (kind : String)
  /-- A kind of value without fields where a field was needed. -/
  | noFields (kind : String)
  /-- A kind of value that does not know an operation. -/
  | noOperation (kind operation : String)
  /-- Rows were to be taken none at a time. -/
  | emptyBatches
  /-- A number outside of those that make identifiers. -/
  | noIdentifier
  /-- A number that is not finite where only finite ones can be written. -/
  | notFinite
  | missingKey (key : String)
  | disabled (need : Need)
  /-- The model answered with nothing, for this purpose. -/
  | noResponse (purpose : String)
  | noRollup (metric : String)
  | noColumn (breakdown table metric : String)
  | queryFailed (metric words : String)
  | ungrounded (tokens : List String)
  /-- The budget, as text. -/
  | timedOut (budget : String)
  | unknownProvider (name : String) (known : List String)
  | packageMissing (name : String)
  /-- What a collaborator reported in its own words. -/
  | reported (kind : Failure.Kind) (words : String)

namespace Failure

def arithmeticKind : ArithmeticFault → Kind
  | .zeroDivisor | .zeroDoubleDivisor => .zeroDivision
  | .nanAsWhole | .signalAsDouble => .value
  | .invalidDecimal | .decimalUndefined => .invalidDecimal
  | .decimalTooLarge => .decimalOverflow
  | .decimalZeroDivisor => .decimalZeroDivision
  | .intTooLarge | .quotientTooLarge | .infinityAsWhole => .overflow

def templateKind : Template.Fault → Kind
  | .incomplete | .incompleteName | .unknown .. | .tooWide | .tooPrecise => .value
  | .starTooWide | .starTooPrecise | .tooManyDigits | .noSuchCharacter => .overflow
  | .noRoom => .memory
  | _ => .type

def labelKind : Http.LabelFault → Kind
  | .notPermitted .. => .hostCharacter
  | .outOfContext .. => .hostContext
  | .unknownDirection .. | .noDirection _ | .againstRight _ | .againstLeft _ | .mixedDigits
  | .openEnd => .hostDirection
  | _ => .hostName

def addressKind : Http.AddressFault → Kind
  | .notBasic _ => .encoding
  | .badWrittenName (.label fault) => labelKind fault
  | .badWrittenName _ => .hostName
  | _ => .address

def kind : Failure → Kind
  | .arithmetic fault => arithmeticKind fault
  | .template fault => templateKind fault
  | .repetition .noRoom => .memory
  | .calendar _ | .repetition _ => .overflow
  | .address fault => addressKind fault
  | .schema _ => .schemaValidation
  | .unparsable .. => .planParse
  | .undecodable .. => .jsonDecode
  | .tooManyDigits _ | .noDouble _ | .noWhole _ | .notFinite | .emptyBatches
  | .noIdentifier => .value
  | .noNumber _ | .noWholeKind _ | .operands .. | .unordered .. | .dayBesideMoment
  | .zoneBesideNone _ | .notCount _ | .noIndex _ | .textBehindList | .unhashable _ | .signalAsKey
  | .notSerializable _ | .notIterable _ | .noFields _ => .type
  | .noOperation .. => .attribute
  | .tooDeep _ => .recursion
  | .missingKey _ => .key
  | .disabled _ => .capabilityDisabled
  | .noResponse _ => .noResponse
  | .noRollup _ | .noColumn .. | .queryFailed .. => .dataSource
  | .ungrounded _ => .narrationIntegrity
  | .timedOut _ => .requestTimeout
  | .unknownProvider .. => .notImplemented
  | .packageMissing _ => .runtime
  | .reported kind _ => kind

/-- The list of messages, for the kinds that have one. -/
def details? : Failure → Option (List String)
  | .schema violations => some (violations.map Violation.message)
  | .unparsable reason line =>
    some ["Planner response is not valid JSON: " ++ reason.message ++ " (line "
      ++ toString line ++ ")"]
  | .reported .schemaValidation words | .reported .planParse words => some [words]
  | _ => none

def message : Failure → String
  | .arithmetic fault => fault.message
  | .calendar fault => fault.message
  | .address fault => fault.message
  | .template fault => fault.message
  | .schema violations => "; ".intercalate (violations.map Violation.message)
  | .unparsable reason line =>
    "Planner response is not valid JSON: " ++ reason.message ++ " (line " ++ toString line ++ ")"
  | .undecodable reason line column offset =>
    reason.message ++ ": line " ++ toString line ++ " column " ++ toString column ++ " (char "
      ++ toString offset ++ ")"
  | .tooManyDigits count => Json.ReadError.tooManyDigitsMessage count
  | .tooDeep container => Json.ReadError.tooDeepMessage container
  | .noDouble text => "could not convert string to float: " ++ Text.quoted text
  | .noNumber kind => "float() argument must be a string or a real number, not '" ++ kind ++ "'"
  | .noWhole text =>
    "invalid literal for int() with base 10: " ++ String.ofList ((Text.quoted text).toList.take 200)
  | .noWholeKind kind =>
    "int() argument must be a string, a bytes-like object or a real number, not '" ++ kind ++ "'"
  | .operands operator left right =>
    "unsupported operand type(s) for " ++ operator ++ ": '" ++ left ++ "' and '" ++ right ++ "'"
  | .unordered left right =>
    "'<' not supported between instances of '" ++ left ++ "' and '" ++ right ++ "'"
  | .dayBesideMoment => "can't compare datetime.datetime to datetime.date"
  | .zoneBesideNone verb => "can't " ++ verb ++ " offset-naive and offset-aware datetimes"
  | .notCount kind => "can't multiply sequence by non-int of type '" ++ kind ++ "'"
  | .repetition fault => fault.message
  | .noIndex kind => "'" ++ kind ++ "' object cannot be interpreted as an integer"
  | .textBehindList => "can only concatenate list (not \"str\") to list"
  | .unhashable kind => "unhashable type: '" ++ kind ++ "'"
  | .signalAsKey => "Cannot hash a signaling NaN value"
  | .notSerializable kind => "Object of type " ++ kind ++ " is not JSON serializable"
  | .notIterable kind => "'" ++ kind ++ "' object is not iterable"
  | .noFields "list" => "list indices must be integers or slices, not str"
  | .noFields "str" => "string indices must be integers, not 'str'"
  | .noFields kind => "'" ++ kind ++ "' object is not subscriptable"
  | .noOperation kind operation => "'" ++ kind ++ "' object has no attribute '" ++ operation ++ "'"
  | .emptyBatches => "range() arg 3 must not be zero"
  | .noIdentifier => "int is out of range (need a 128-bit value)"
  | .notFinite => "Out of range float values are not JSON compliant"
  | .missingKey key => Text.quoted key
  | .disabled need => need.message
  | .noResponse purpose => "No response from AI " ++ purpose
  | .noRollup metric => "Metric '" ++ metric ++ "' has no native rollup in the warehouse"
  | .noColumn breakdown table metric =>
    "Breakdown '" ++ breakdown ++ "' is not available on " ++ table ++ " for metric '" ++ metric
      ++ "'"
  | .queryFailed metric words =>
    "Warehouse query failed for metric '" ++ metric ++ "': " ++ words
  | .ungrounded tokens =>
    "Narration cites numbers absent from the result: " ++ ", ".intercalate tokens
  | .timedOut budget => "Request exceeded the " ++ budget ++ "s time budget"
  | .unknownProvider name known =>
    "LLM provider '" ++ name ++ "' is not supported.  Choose from: mock, "
      ++ ", ".intercalate known
  | .packageMissing name =>
    "The '" ++ name ++ "' package is not installed.  Run: pip install " ++ name
  | .reported _ words => words

end Failure

/-- A failure of arithmetic is a failure of what needed it. -/
def arithmetic (r : Except ArithmeticFault α) : Except Failure α := r.mapError .arithmetic

/-- A failure of a move in the calendar likewise. -/
def calendar (r : Except CalendarFault α) : Except Failure α := r.mapError .calendar

end MetricDesk
