import MetricDesk.Text.Blank
import MetricDesk.Text.Word

/-! Searching a text: a pattern is tried at every place from the left, and knows the character
in front of it. -/
namespace MetricDesk.Text

/-- What a pattern finds at the first place where it finds anything. -/
def search (pattern : Option Char → List Char → Option α) :
    Option Char → List Char → Option α
  | before, [] => pattern before []
  | before, c :: cs =>
    (pattern before (c :: cs)).orElse fun _ => search pattern (some c) cs

/-- What follows a word at the front. -/
def after? (word : List Char) (cs : List Char) : Option (List Char) :=
  if word.isPrefixOf cs then some (cs.drop word.length) else none

/-- What follows the white space at the front, of which there has to be some. -/
def afterBlanks? : List Char → Option (List Char)
  | c :: cs => if isBlank c then some (cs.dropWhile isBlank) else none
  | [] => none

/-- A word character and the character in front of it, or none, make the start of a word. -/
def startsWord (before : Option Char) : Bool :=
  match before with
  | some c => !isWordChar c
  | none => true

/-- No word character follows. -/
def endsWord (cs : List Char) : Bool :=
  match cs with
  | c :: _ => !isWordChar c
  | [] => true

/-- A text occurs somewhere in another. -/
def occurs (part : List Char) (cs : List Char) : Bool :=
  (search (fun _ rest => after? part rest) none cs).isSome

/-- The parts between the characters at which a text is cut. -/
def parts (isCut : Char → Bool) : List Char → List (List Char)
  | [] => [[]]
  | c :: cs =>
    if isCut c then [] :: parts isCut cs
    else
      match parts isCut cs with
      | first :: rest => (c :: first) :: rest
      | [] => [[c]]

end MetricDesk.Text
