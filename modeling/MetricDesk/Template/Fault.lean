import MetricDesk.Text.Quoted

/-! Why a template cannot be filled. -/
namespace MetricDesk.Template

inductive Fault where
  | tooFewArguments
  | argumentsLeft
  /-- A mark names a field where the arguments have no names. -/
  | noFields
  /-- A width or a precision is taken from what is no whole number. -/
  | starNotWhole
  | starTooWide
  | starTooPrecise
  | tooWide
  | tooPrecise
  /-- A whole number was to have more digits than any can have. -/
  | tooManyDigits
  /-- The text would not fit anywhere. -/
  | noRoom
  /-- The template ends inside a mark, or inside the name in it. -/
  | incomplete
  | incompleteName
  /-- A mark for nothing known, at a place. -/
  | unknown (mark : Char) (place : Nat)
  | notReal (mark : Char) (kind : String)
  | notWhole (mark : Char) (kind : String)
  | notDouble (kind : String)
  | notCharacter
  | noSuchCharacter
  deriving DecidableEq, Repr

namespace Fault

/-- A character as it is shown; one that does not print stands as a question mark. -/
def shownMark (c : Char) : String :=
  String.singleton (if 31 ≤ c.toNat ∧ c.toNat ≤ 126 then c else '?')

def message : Fault → String
  | .tooFewArguments => "not enough arguments for format string"
  | .argumentsLeft => "not all arguments converted during string formatting"
  | .noFields => "format requires a mapping"
  | .starNotWhole => "* wants int"
  | .starTooWide => "Python int too large to convert to C ssize_t"
  | .starTooPrecise => "Python int too large to convert to C int"
  | .tooWide => "width too big"
  | .tooPrecise => "precision too big"
  | .tooManyDigits => "precision too large"
  | .noRoom => ""
  | .incomplete => "incomplete format"
  | .incompleteName => "incomplete format key"
  | .unknown mark place =>
    "unsupported format character '" ++ shownMark mark ++ "' (0x"
      ++ String.ofList (Nat.toDigits 16 mark.toNat) ++ ") at index " ++ toString place
  | .notReal mark kind =>
    "%" ++ String.singleton mark ++ " format: a real number is required, not " ++ kind
  | .notWhole mark kind =>
    "%" ++ String.singleton mark ++ " format: an integer is required, not " ++ kind
  | .notDouble kind => "must be real number, not " ++ kind
  | .notCharacter => "%c requires int or char"
  | .noSuchCharacter => "%c arg not in range(0x110000)"

end Fault
end MetricDesk.Template
