import MetricDesk.Template.Mark
import MetricDesk.Value.Text

/-! Filling a template: each mark is written out with the next argument, and every argument has to
be used. -/
namespace MetricDesk.Template

/-! ### Numbers -/

/-- A number without its sign, in so many digits behind the first. -/
def scientific (alternate : Bool) (places : Nat) (m : Nat) (e : Int) : List Char :=
  let (n, d) := Double.quotient m e
  let x : Digits.Decimal := if m = 0 then ⟨0, 0⟩ else Digits.significant (places + 1) n d
  let ds := Digits.padded (places + 1) x.coefficient
  let first := if m = 0 then 0 else x.exponent + places
  let point := if places = 0 && !alternate then [] else ['.']
  ds.take 1 ++ point ++ ds.drop 1 ++ Layout.exponent first

/-- A number without its sign to so many decimal places. -/
def positional (alternate : Bool) (places : Nat) (m : Nat) (e : Int) : List Char :=
  let ds := Digits.padded (places + 1) (Double.placesOf places m e)
  let whole := ds.length - places
  let point := if places = 0 && !alternate then [] else ['.']
  ds.take whole ++ point ++ ds.drop whole

/-- Zeros at the end of a fraction taken off, and the point with the last of them. -/
def withoutZeros (cs : List Char) : List Char :=
  let mantissa := cs.takeWhile (· != 'e')
  let rest := cs.dropWhile (· != 'e')
  if mantissa.contains '.' then
    let kept := (mantissa.reverse.dropWhile (· = '0')).reverse
    (if kept.getLast? = some '.' then kept.dropLast else kept) ++ rest
  else cs

/-- No double has more significant digits. -/
def mostDigits : Nat := 767

/-- Whichever form is shorter, with so many significant digits. -/
def general (alternate : Bool) (count : Nat) (m : Nat) (e : Int) : List Char :=
  let count := max (if alternate then count else min count mostDigits) 1
  let (n, d) := Double.quotient m e
  let x := Digits.significant count n d
  let first : Int := if m = 0 then 0 else x.exponent + (Digits.ofNat x.coefficient).length - 1
  let text := if -4 ≤ first ∧ first < count then
      positional alternate (count - 1 - first).toNat m e
    else scientific alternate (count - 1) m e
  if alternate then text else withoutZeros text

/-- A double in one of the forms, and whether it is negative. -/
def doubleParts (mark : Mark) (x : Double) : Bool × List Char :=
  let places := mark.precision.getD 6
  let (neg, text) := match x with
    | .nan => (false, ['n', 'a', 'n'])
    | .infinite s => (s, ['i', 'n', 'f'])
    | .finite s m e _ => (s, match mark.letter.toLower with
      | 'e' => scientific mark.alternate places m e
      | 'f' => positional mark.alternate places m e
      | _ => general mark.alternate places m e)
  (neg, if mark.letter.isUpper then text.map Char.toUpper else text)

/-- The base of a mark for whole numbers. -/
def baseOf (letter : Char) : Nat :=
  match letter with
  | 'o' => 8
  | 'x' | 'X' => 16
  | _ => 10

/-- What stands in front of a number of a base other than ten. -/
def baseMark (mark : Mark) : List Char :=
  if mark.alternate && baseOf mark.letter != 10 then ['0', mark.letter] else []

def wholeDigits (mark : Mark) (n : Nat) : List Char :=
  let ds := Nat.toDigits (baseOf mark.letter) n
  let filled := List.replicate (mark.precision.getD 0 - ds.length) '0' ++ ds
  if mark.letter = 'X' then filled.map Char.toUpper else filled

/-- The whole number that an argument stands for; in base ten a fraction is cut off. -/
def wholeOf (mark : Mark) (v : Value) : Except Failure Int :=
  match v, baseOf mark.letter with
  | .num (.int n), _ => .ok n
  | .bool b, _ => .ok b.toNat
  | .num (.dbl x), 10 => arithmetic x.whole
  | v, 10 => .error (.template (.notReal mark.letter v.kind))
  | v, _ => .error (.template (.notWhole mark.letter v.kind))

def doubleOf (v : Value) : Except Failure Double :=
  match v with
  | .num n => arithmetic n.toDouble
  | .bool b => .ok (.ofInt b.toNat)
  | v => .error (.template (.notDouble v.kind))

/-- A character, or the one of a code point. -/
def characterOf (v : Value) : Except Failure Char :=
  let ofPoint (n : Int) : Except Failure Char :=
    if 0 ≤ n ∧ n < 0x110000 then .ok (Char.ofNat n.toNat)
    else .error (.template .noSuchCharacter)
  match v with
  | .str s =>
    match s.toList with
    | [c] => .ok c
    | _ => .error (.template .notCharacter)
  | .num (.int n) => ofPoint n
  | .bool b => ofPoint b.toNat
  | _ => .error (.template .notCharacter)

/-! ### Marks -/

/-- A text filled up with blanks to the width of its mark. -/
def padded (mark : Mark) (cs : List Char) : List Char :=
  let blanks := List.replicate (mark.width - cs.length) ' '
  if mark.toLeft then cs ++ blanks else blanks ++ cs

/-- A number with its sign; zeros that fill it up stand between what is in front and its digits. -/
def signed (mark : Mark) (neg : Bool) (front digits : List Char) : List Char :=
  let sign := if neg then ['-'] else if mark.plus then ['+'] else if mark.blank then [' '] else []
  let front := sign ++ front
  if mark.zeros && !mark.toLeft then
    front ++ List.replicate (mark.width - front.length - digits.length) '0' ++ digits
  else padded mark (front ++ digits)

/-- A text cut to the precision of its mark. -/
def textual (mark : Mark) (s : String) : Except Failure (List Char) := do
  Mark.fits mark.width
  return padded mark (match mark.precision with
    | some n => s.toList.take n
    | none => s.toList)

/-- A text in plain characters: any other is written by its code point. -/
def plainText (s : String) : String :=
  String.ofList (s.toList.flatMap fun c => if c.toNat < 128 then [c] else Text.escapedPoint c.toNat)

/-- The most digits that a whole number can be filled up to. -/
def mostFilled : Nat := Mark.finest - 3

/-- An argument as its mark says; the place of the mark's letter tells of one that says nothing. -/
def written (mark : Mark) (place : Nat) (v : Value) : Except Failure (List Char) := do
  match mark.letter with
  | 's' => textual mark v.text
  | 'r' => textual mark v.shown
  | 'a' => textual mark (plainText v.shown)
  | 'd' | 'i' | 'u' | 'o' | 'x' | 'X' =>
    let n ← wholeOf mark v
    if mostFilled < mark.precision.getD 0 then throw (.template .tooManyDigits)
    Mark.fits (mark.precision.getD 0)
    Mark.fits mark.width
    return signed mark (n < 0) (baseMark mark) (wholeDigits mark n.natAbs)
  | 'e' | 'E' | 'f' | 'F' | 'g' | 'G' =>
    let x ← doubleOf v
    Mark.fits (if mark.letter.toLower = 'g' && !mark.alternate then 0
      else mark.precision.getD 0)
    Mark.fits mark.width
    let (neg, digits) := doubleParts mark x
    return signed mark neg [] digits
  | 'c' =>
    let c ← characterOf v
    Mark.fits mark.width
    return padded mark [c]
  | c => throw (.template (.unknown c place))

/-- The rest of a template of a length, filled; two percent signs in a row are one. The fuel bounds
the number of its characters. -/
def fillFrom (length : Nat) : Nat → Arguments → List Char → Except Failure (List Char)
  | 0, _, cs => .ok cs
  | _, a, [] =>
    if a.fields.isNone && !a.left.isEmpty then .error (.template .argumentsLeft) else .ok []
  | fuel + 1, a, '%' :: '%' :: cs => do return '%' :: (← fillFrom length fuel a cs)
  | fuel + 1, a, '%' :: cs => do
    let (mark, a, rest) ← Mark.read a cs
    let (v, a) ← a.next
    let text ← written mark (length - rest.length - 1) v
    return text ++ (← fillFrom length fuel a rest)
  | fuel + 1, a, c :: cs => do return c :: (← fillFrom length fuel a cs)

/-- A template with its marks filled. Where there are no arguments it stands as it is. -/
def fill (template : String) (arguments : List Value) : Except Failure String :=
  if arguments.isEmpty then .ok template
  else (fillFrom template.length (template.length + 1) (.ofList arguments)
    template.toList).map String.ofList

end MetricDesk.Template
