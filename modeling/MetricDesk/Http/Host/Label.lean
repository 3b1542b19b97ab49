import MetricDesk.Http.Host.Permitted
import MetricDesk.Http.Host.Punycode
import MetricDesk.Text.Composed
import MetricDesk.Text.Direction
import MetricDesk.Text.Joining
import MetricDesk.Text.Quoted
import MetricDesk.Text.Script

/-! Labels, the parts of a name between points. A label in a script of its own is written with
basic characters behind `xn--`. -/
namespace MetricDesk.Http

/-- A label as code points. Some of those that numbers say are no characters. -/
abbrev Label := List Nat

/-- Why a text is no label. Places are counted from one. -/
inductive LabelFault where
  | empty
  | notComposed
  | hyphensInside
  | hyphenAtEnd
  | markInFront
  | notPermitted (point place : Nat) (label : Label)
  | joinerAlone (point place : Nat) (label : Label)
  | outOfContext (point place : Nat) (label : Label)
  | unknownDirection (place : Nat) (label : Label)
  | noDirection (label : Label)
  | againstRight (place : Nat)
  | againstLeft (place : Nat)
  | mixedDigits
  | openEnd
  /-- Nothing stands behind the mark of a written label. -/
  | nothingWritten
  | writtenHyphenAtEnd
  | unreadable
  deriving DecidableEq, Repr

namespace LabelFault

/-- A code point by its number in base sixteen. -/
def pointText (n : Nat) : String := "U+" ++ String.ofList ((Text.hexPadded 4 n).map Char.toUpper)

def message : LabelFault → String
  | .empty => "Empty Label"
  | .notComposed => "Label must be in Normalization Form C"
  | .hyphensInside => "Label has disallowed hyphens in 3rd and 4th position"
  | .hyphenAtEnd => "Label must not start or end with a hyphen"
  | .markInFront => "Label begins with an illegal combining character"
  | .notPermitted point place label =>
    "Codepoint " ++ pointText point ++ " at position " ++ toString place ++ " of "
      ++ Text.quotedPoints label ++ " not allowed"
  | .joinerAlone point place label =>
    "Unknown codepoint adjacent to joiner " ++ pointText point ++ " at position "
      ++ toString place ++ " in " ++ Text.quotedPoints label
  | .outOfContext point place label =>
    "Codepoint " ++ pointText point ++ " not allowed at position " ++ toString place ++ " in "
      ++ Text.quotedPoints label
  | .unknownDirection place label =>
    "Unknown directionality in label " ++ Text.quotedPoints label ++ " at position "
      ++ toString place
  | .noDirection label =>
    "First codepoint in label " ++ Text.quotedPoints label ++ " must be directionality L, R or AL"
  | .againstRight place =>
    "Invalid direction for codepoint at position " ++ toString place
      ++ " in a right-to-left label"
  | .againstLeft place =>
    "Invalid direction for codepoint at position " ++ toString place
      ++ " in a left-to-right label"
  | .mixedDigits => "Can not mix numeral types in a right-to-left label"
  | .openEnd => "Label ends with illegal codepoint directionality"
  | .nothingWritten => "Malformed A-label, no Punycode eligible content found"
  | .writtenHyphenAtEnd => "A-label must not end with a hyphen"
  | .unreadable => "Invalid A-label"

end LabelFault

namespace Label

def hyphen : Nat := '-'.toNat

/-! ### Characters that need their neighbours -/

/-- The two joiners: one that keeps letters apart, one that binds them. -/
def isJoiner (n : Nat) : Bool := n = 0x200C || n = 0x200D

/-- Letters that are bound below another have a sign of this class in front. -/
def isBinding (n : Nat) : Bool := Text.combiningClass n = 9

/-- The first neighbour that is not passed over joins this way. -/
def joins (way : Text.Joining) (neighbours : List Nat) : Bool :=
  match neighbours.find? fun n => Text.Joining.of n != .transparent with
  | some n => Text.Joining.of n = way || Text.Joining.of n = .both
  | none => false

/-- A joiner stands behind a binding sign, or keeps two letters apart that would join. What is in
front is told from the joiner on. -/
def allowsJoiner (point : Nat) (front behind : List Nat) : Bool :=
  front.head?.any isBinding
    || (point = 0x200C && joins .forward front && joins .backward behind)

def isArabicDigit (n : Nat) : Bool := 0x660 ≤ n && n ≤ 0x669

def isEasternDigit (n : Nat) : Bool := 0x6F0 ≤ n && n ≤ 0x6F9

/-- Characters that are permitted in some places only, joiners apart. -/
def isContextual (n : Nat) : Bool :=
  [0xB7, 0x375, 0x5F3, 0x5F4, 0x30FB].contains n || isArabicDigit n || isEasternDigit n

/-- The middle point stands between two small l, a sign of a script beside its letters, the Japanese
point in a label with other characters of that language, and digits of one kind without those of
the other. -/
def allowsContext (point : Nat) (front behind : List Nat) (label : Label) : Bool :=
  let l := 'l'.toNat
  if point = 0xB7 then front.head? = some l && behind.head? = some l
  else if point = 0x375 then behind.head?.any Text.isGreek
  else if point = 0x5F3 || point = 0x5F4 then front.head?.any Text.isHebrew
  else if point = 0x30FB then label.any fun n => n != 0x30FB && Text.isJapanese n
  else if isArabicDigit point then !label.any isEasternDigit
  else !label.any isArabicDigit

/-- Every character is permitted where it stands. What is in front is told from the place on. -/
def checkPoints (label : Label) (front : List Nat) : List Nat → Except LabelFault Unit
  | [] => pure ()
  | n :: behind => do
    let place := front.length + 1
    if isJoiner n then
      unless allowsJoiner n front behind do throw (.joinerAlone n place label)
    else if isContextual n then
      unless allowsContext n front behind label do throw (.outOfContext n place label)
    else
      unless isPermitted n do throw (.notPermitted n place label)
    checkPoints label (n :: front) behind

/-! ### Directions -/

/-- In a label that goes to the left everything else does too, and its digits are of one kind. -/
def checkToLeft (place : Nat) (digits : Option Text.Direction) :
    List Text.Direction → Except LabelFault Unit
  | [] => pure ()
  | .left :: _ => throw (.againstRight place)
  | d :: rest =>
    if d = .digit ∨ d = .arabicDigit then
      if digits.any (· != d) then throw .mixedDigits else checkToLeft (place + 1) (some d) rest
    else checkToLeft (place + 1) digits rest

/-- In a label that goes to the right nothing goes to the left. -/
def checkToRight (directions : List Text.Direction) : Except LabelFault Unit :=
  match directions.findIdx? fun d => d = .right ∨ d = .arabicDigit with
  | some i => throw (.againstLeft (i + 1))
  | none => pure ()

/-- Directions matter as soon as something goes to the left. Marks at the end apart, a label ends
with a letter of its own direction or with a digit. -/
def checkDirections (label : Label) : Except LabelFault Unit := do
  match label.findIdx? isNewer with
  | some i => throw (.unknownDirection (i + 1) label)
  | none => pure ()
  let directions := label.map Text.Direction.of
  if directions.any fun d => d = .right ∨ d = .arabicDigit then
    let last? := directions.reverse.find? (· != .mark)
    match directions with
    | .right :: _ =>
      checkToLeft 1 none directions
      if !last?.any fun d => d = .right ∨ d = .digit ∨ d = .arabicDigit then throw .openEnd
    | .left :: _ =>
      checkToRight directions
      if !last?.any fun d => d = .left ∨ d = .digit then throw .openEnd
    | _ => throw (.noDirection label)

/-! ### Labels as a whole -/

def check (label : Label) : Except LabelFault Unit := do
  if label.isEmpty then throw .empty
  if !Text.isComposed label then throw .notComposed
  if (label.drop 2).take 2 = [hyphen, hyphen] then throw .hyphensInside
  if label.head? = some hyphen ∨ label.getLast? = some hyphen then throw .hyphenAtEnd
  if label.head?.any Text.isMark then throw .markInFront
  checkPoints label [] label
  checkDirections label

def mark : List Char := ['x', 'n', '-', '-']

/-- A label in basic characters, as it is or as what it is written for. -/
def checkBasic (cs : List Char) : Except LabelFault Unit := do
  let cs := cs.map Char.toLower
  if mark.isPrefixOf cs then
    let content := cs.drop mark.length
    if content.isEmpty then throw .nothingWritten
    if content.getLast? = some '-' then throw .writtenHyphenAtEnd
    match Punycode.read? content with
    | some label => check label
    | none => throw .unreadable
  else check (cs.map (·.toNat))

/-- How many basic characters a label takes. -/
def size (cs : List Char) : Except LabelFault Nat := do
  if cs.all (·.toNat < 0x80) then
    checkBasic cs
    return cs.length
  else
    let label := cs.map (·.toNat)
    check label
    return mark.length + (Punycode.write label).length

end Label
end MetricDesk.Http
