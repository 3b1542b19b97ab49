import MetricDesk.Value.Text
import MetricDesk.Plan.Vocabulary

/-! What can be wrong with a plan or a result, one cause a constructor, and the words for it.
A `label` names the place. -/
namespace MetricDesk

inductive Violation where
  | notObject (label : String)
  | notArray (label : String)
  | unknownFields (label : String) (keys : List String)
  | missingFields (label : String) (keys : List String)
  | blank (label : String)
  | notText (label : String)
  | notNumber (label : String)
  | notNumberOrNull (label : String)
  | notTextOrNumber (label : String)
  /-- A value outside a vocabulary, which is listed. -/
  | unsupported (what : String) (found : Value) (allowed : List String)
  | notOneOf (label : String) (allowed : List String)
  | notPositive (label : String)
  | notWholeDays (label : String)
  | tooManyDays (label : String) (limit : Nat)
  | groupUnsupported (b : Breakdown) (metric : Metric)
  | unknownField (label : String) (key : String)
  /-- A part that is no string where the typed form has one. -/
  | partNotText (path : String)
  /-- A part that is no double where the typed form has one. -/
  | partNotNumber (path : String)
  | inPlan (cause : Violation)
  /-- Words that a collaborator reported. -/
  | reported (words : String)

namespace Violation

def commas (names : List String) : String := ", ".intercalate names

def message : Violation → String
  | .notObject label => label ++ " must be an object."
  | .notArray label => label ++ " must be an array."
  | .unknownFields label keys => label ++ " has unknown fields: " ++ commas keys
  | .missingFields label keys => label ++ " is missing fields: " ++ commas keys
  | .blank label => label ++ " must be a non-empty string."
  | .notText label => label ++ " must be a string."
  | .notNumber label => label ++ " must be a number."
  | .notNumberOrNull label => label ++ " must be a number or null."
  | .notTextOrNumber label => label ++ " must be a string or number."
  | .unsupported what found allowed =>
    "Unsupported " ++ what ++ " '" ++ found.text ++ "'. Allowed: " ++ commas allowed
  | .notOneOf label allowed => label ++ " must be one of: " ++ commas allowed
  | .notPositive label => label ++ " must be positive."
  | .notWholeDays label => label ++ " must be a whole number of days."
  | .tooManyDays label limit => label ++ " must be at most " ++ toString limit ++ " days."
  | .groupUnsupported b metric =>
    let supported := metric.breakdowns.map (·.name)
    "Breakdown '" ++ b.name ++ "' is not supported for metric '" ++ metric.name
      ++ "'. Supported: " ++ (if supported.isEmpty then "none" else commas supported)
  | .unknownField label key => label ++ " has unknown field '" ++ key ++ "'."
  | .partNotText path => path ++ ": Input should be a valid string"
  | .partNotNumber path => path ++ ": Input should be a valid number"
  | .inPlan cause => "context.plan: " ++ cause.message
  | .reported words => words

end Violation
end MetricDesk
