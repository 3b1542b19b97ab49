import MetricDesk.Failure
import MetricDesk.Text.Blank

/-! A model's reply as JSON: the contents of a fenced block, first of one labelled as JSON, then
of any; without a block the whole reply. -/
namespace MetricDesk.Reply

def fence : List Char := ['\x60', '\x60', '\x60']

/-- What follows a fence at the front. -/
def afterFence? (cs : List Char) : Option (List Char) :=
  if fence.isPrefixOf cs then some (cs.drop 3) else none

/-- The letters of the label in any case; the long s counts as an s. -/
def label : List (List Char) := [['j', 'J'], ['s', 'S', 'ſ'], ['o', 'O'], ['n', 'N']]

/-- What follows the label at the front. -/
def afterLabel? : List (List Char) → List Char → Option (List Char)
  | [], cs => some cs
  | choices :: more, c :: cs => if choices.contains c then afterLabel? more cs else none
  | _ :: _, [] => none

/-- The characters before the first closing fence and the white space in front of it. -/
def upToFence? : List Char → Option (List Char)
  | [] => none
  | c :: cs =>
    if fence.isPrefixOf ((c :: cs).dropWhile Text.isBlank) then some []
    else (upToFence? cs).map (c :: ·)

/-- The contents of a block that opens at the front, if it is labelled as asked and closed. -/
def blockHere? (labelled : Bool) (cs : List Char) : Option (List Char) := do
  let opened ← afterFence? cs
  let inside ← if labelled then afterLabel? label opened else some opened
  upToFence? (inside.dropWhile Text.isBlank)

/-- The contents of the first block. -/
def block? (labelled : Bool) : List Char → Option (List Char)
  | [] => none
  | c :: cs => (blockHere? labelled (c :: cs)).orElse fun _ => block? labelled cs

/-- The part of a reply that has to be JSON. -/
def body (cs : List Char) : List Char :=
  match block? true cs with
  | some inside => inside
  | none =>
    match block? false cs with
    | some inside => inside
    | none => Text.trimmed cs

/-- The value that a text spells as JSON. -/
def spelled (text : List Char) : Except Failure Value :=
  match Json.read text with
  | .ok v => .ok v
  | .error (.syntaxAt reason offset) => .error (.unparsable reason (Json.lineOf text offset))
  | .error (.tooManyDigits count) => .error (.tooManyDigits count)
  | .error (.tooDeep container) => .error (.tooDeep container)

/-- The value that a reply spells. -/
def value (reply : String) : Except Failure Value := spelled (body reply.toList)

end MetricDesk.Reply
