import MetricDesk.Number.Basic
import MetricDesk.Text.Blank
import MetricDesk.Text.Digit

/-! Reading doubles from the text of a cell: white space around it, a sign, digits of any
script with underscores between them, a point, an exponent; or the words for infinity and for
no number. -/
namespace MetricDesk.Reading

/-- White space around a number; the information separators are none. -/
def isMargin (c : Char) : Bool := Text.isBlank c && !(0x1c ≤ c.toNat && c.toNat ≤ 0x1f)

def withoutMargins (cs : List Char) : List Char :=
  ((cs.dropWhile isMargin).reverse.dropWhile isMargin).reverse

/-- Every digit in its plain form. -/
def plainDigits (cs : List Char) : List Char :=
  cs.map fun c => match Text.digitOf? c with
    | some d => Char.ofNat ('0'.toNat + d)
    | none => c

/-- Underscores taken out, where each stands between two digits. -/
def joined : List Char → Option (List Char)
  | [] => some []
  | c :: '_' :: d :: rest =>
    if c.isDigit && d.isDigit then (joined (d :: rest)).map (c :: ·) else none
  | '_' :: _ => none
  | [_, '_'] => none
  | c :: rest => (joined rest).map (c :: ·)

/-- A run of digits and what follows it. -/
def digits (cs : List Char) : List Char × List Char :=
  (cs.takeWhile Char.isDigit, cs.dropWhile Char.isDigit)

def naturalOf (ds : List Char) : Nat :=
  ds.foldl (fun n c => 10 * n + (c.toNat - '0'.toNat)) 0

/-- A sign and what follows it. -/
def sign : List Char → Bool × List Char
  | '-' :: rest => (true, rest)
  | '+' :: rest => (false, rest)
  | cs => (false, cs)

/-- The exponent part, which may be missing but has digits if it is there. -/
def exponent : List Char → Option Int
  | [] => some 0
  | 'e' :: rest | 'E' :: rest =>
    let (neg, body) := sign rest
    let (ds, after) := digits body
    if ds.isEmpty || !after.isEmpty then none
    else some (if neg then -(naturalOf ds : Int) else naturalOf ds)
  | _ => none

/-- An unsigned decimal: digits on at least one side of the point. -/
def decimal (neg : Bool) (cs : List Char) : Option Double :=
  let (whole, rest) := digits cs
  let (part, tail) := match rest with
    | '.' :: after => digits after
    | _ => ([], rest)
  if whole.isEmpty && part.isEmpty then none
  else (exponent tail).map fun e =>
    Double.ofDecimal neg (naturalOf (whole ++ part)) (e - part.length)

/-- The words for what no digits can say, in any case. -/
def word (neg : Bool) (cs : List Char) : Option Double :=
  let w := String.ofList (cs.map Char.toLower)
  if w = "inf" || w = "infinity" then some (.infinite neg)
  else if w = "nan" then some .nan
  else none

/-- The double that a text spells. -/
def double? (s : String) : Option Double := do
  let cs ← joined (plainDigits (withoutMargins s.toList))
  let (neg, body) := sign cs
  (decimal neg body).orElse fun _ => word neg body

/-- Why a text is read as no whole number. -/
inductive WholeFault where
  | spelling
  | tooManyDigits (count : Nat)
  deriving DecidableEq, Repr

/-- The most digits that a whole number is read from. -/
def digitLimit : Nat := 4300

/-- The whole number that a text spells. Its digits are counted before what follows them is looked
at. -/
def whole (s : String) : Except WholeFault Int :=
  let (neg, body) := sign (plainDigits (withoutMargins s.toList))
  let run := body.takeWhile fun c => c.isDigit || c = '_'
  match joined run with
  | none => .error .spelling
  | some ds =>
    if ds.isEmpty then .error .spelling
    else if digitLimit < ds.length then .error (.tooManyDigits ds.length)
    else if run.length < body.length then .error .spelling
    else .ok (if neg then -(naturalOf ds : Int) else naturalOf ds)

end MetricDesk.Reading
