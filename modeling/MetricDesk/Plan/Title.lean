import MetricDesk.Text.Scan

/-! Titles of games in questions: in quotes behind "for", "in" or "of", or as a word behind
"game" or "title". Letters match in either case; the dotted and the dotless i count as i, the
long s as s, the Kelvin sign as k. -/
namespace MetricDesk.Title
open Text

/-- A letter of a pattern in any case. -/
def isLetter (small c : Char) : Bool :=
  c = small || c = small.toUpper || (small = 'i' && (c = 'İ' || c = 'ı'))

/-- What follows a word at the front, in any case. -/
def afterWord? : List Char → List Char → Option (List Char)
  | [], cs => some cs
  | _ :: _, [] => none
  | w :: ws, c :: cs => if isLetter w c then afterWord? ws cs else none

def isQuote (c : Char) : Bool := c = '"' || c = '\''

/-- "The game" and the white space around its words, if they stand at the front. -/
def withoutTheGame (cs : List Char) : List Char :=
  let rest := do
    let rest ← (afterWord? ['t', 'h', 'e'] cs).bind afterBlanks?
    (afterWord? ['g', 'a', 'm', 'e'] rest).bind afterBlanks?
  rest.getD cs

/-- Some characters between two quotes, of whichever kind. -/
def between? : List Char → Option (List Char)
  | [] => none
  | c :: cs =>
    if isQuote c then
      let inside := cs.takeWhile (!isQuote ·)
      if inside.isEmpty || (cs.dropWhile (!isQuote ·)).isEmpty then none else some inside
    else none

/-- A title in quotes. -/
def quoted? (cs : List Char) : Option (List Char) :=
  [['f', 'o', 'r'], ['i', 'n'], ['o', 'f']].findSome? fun word => do
    let rest ← (afterWord? word cs).bind afterBlanks?
    between? (withoutTheGame rest)

/-- Letters and digits that a title may begin with. -/
def isFirst (c : Char) : Bool :=
  c.isAlphanum || c = 'İ' || c = 'ı' || c = 'ſ' || c = '\u212a'

/-- A title ends before white space, some punctuation, or the end of the question. -/
def ends : List Char → Bool
  | [] => true
  | c :: _ => isBlank c || c = '?' || c = '.' || c = ',' || c = '!'

/-- The title that has begun goes on up to its first end, with or without a quote before it. -/
def upToEnd? : List Char → Option (List Char)
  | [] => some []
  | c :: cs =>
    if ends (c :: cs) || (isQuote c && ends cs) then some []
    else if isWordChar c || c = '-' then (upToEnd? cs).map (c :: ·)
    else none

/-- A title of one word. -/
def bare? (cs : List Char) : Option (List Char) :=
  [['g', 'a', 'm', 'e'], ['t', 'i', 't', 'l', 'e']].findSome? fun word => do
    let rest ← (afterWord? word cs).bind afterBlanks?
    let rest := match rest with
      | c :: cs => if isQuote c then cs else c :: cs
      | [] => []
    match rest with
    | c :: cs => if isFirst c then (upToEnd? cs).map (c :: ·) else none
    | [] => none

/-- A title at the front, behind the start of a word. -/
def at? (before : Option Char) (cs : List Char) : Option (List Char) :=
  if startsWord before then (quoted? cs).orElse fun _ => bare? cs else none

/-- The game that a question names; without one, or with a blank title, all games. -/
def of (question : String) : String :=
  match search at? none question.toList with
  | some title =>
    let name := trimmed title
    if name.isEmpty then "all" else String.ofList name
  | none => "all"

end MetricDesk.Title
