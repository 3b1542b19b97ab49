import MetricDesk.Value.Basic

/-! Reading JSON. Beyond the standard `NaN`, `Infinity` and `-Infinity` are numbers; a key that
occurs again replaces the value at its first place. A failure names what was expected and the
place, and of several faults the first in reading order. -/
namespace MetricDesk.Json

/-- Why a text is no JSON, at which character. -/
inductive Reason where
  | expectingValue
  | expectingName
  | expectingColon
  | expectingComma
  | unterminated
  | control
  | escape
  | codePoint
  | extraData
  | mark
  deriving DecidableEq, Repr

def Reason.message : Reason → String
  | .expectingValue => "Expecting value"
  | .expectingName => "Expecting property name enclosed in double quotes"
  | .expectingColon => "Expecting ':' delimiter"
  | .expectingComma => "Expecting ',' delimiter"
  | .unterminated => "Unterminated string starting at"
  | .control => "Invalid control character at"
  | .escape => "Invalid \\escape"
  | .codePoint => "Invalid \\uXXXX escape"
  | .extraData => "Extra data"
  | .mark => "Unexpected UTF-8 BOM (decode using utf-8-sig)"

/-- What other values stand in. -/
inductive Container where
  | list
  | object
  deriving DecidableEq, Repr

inductive ReadError where
  | syntaxAt (reason : Reason) (offset : Nat)
  /-- A whole number of too many digits to be computed. -/
  | tooManyDigits (count : Nat)
  /-- A container inside of too many others. -/
  | tooDeep (container : Container)
  deriving DecidableEq, Repr

/-- What is left of the text, and how many characters stand before it. -/
structure Cursor where
  rest : List Char
  offset : Nat

namespace Cursor

/-- Past so many characters. -/
def skip (c : Cursor) (n : Nat) : Cursor := ⟨c.rest.drop n, c.offset + n⟩

def isSpace (c : Char) : Bool := c = ' ' || c = '\t' || c = '\n' || c = '\r'

def spaces (c : Cursor) : Cursor := c.skip (c.rest.takeWhile isSpace).length

def head? (c : Cursor) : Option Char := c.rest.head?

def fail (c : Cursor) (reason : Reason) : Except ReadError α := .error (.syntaxAt reason c.offset)

end Cursor

/-- The limit on the digits of a whole number. -/
def maxDigits : Nat := 4300

/-! ### Strings -/

def hexDigit? (c : Char) : Option Nat :=
  if c.isDigit then some (c.toNat - '0'.toNat)
  else if 'a' ≤ c ∧ c ≤ 'f' then some (c.toNat - 'a'.toNat + 10)
  else if 'A' ≤ c ∧ c ≤ 'F' then some (c.toNat - 'A'.toNat + 10)
  else none

/-- Four hexadecimal digits at the front. -/
def hexFour? : List Char → Option Nat
  | a :: b :: c :: d :: _ => do
    let a ← hexDigit? a
    let b ← hexDigit? b
    let c ← hexDigit? c
    let d ← hexDigit? d
    return ((a * 16 + b) * 16 + c) * 16 + d
  | _ => none

def simpleEscape? : Char → Option Char
  | '"' => some '"'
  | '\\' => some '\\'
  | '/' => some '/'
  | 'b' => some '\x08'
  | 'f' => some '\x0c'
  | 'n' => some '\n'
  | 'r' => some '\r'
  | 't' => some '\t'
  | _ => none

def isHigh (n : Nat) : Bool := 0xd800 ≤ n && n ≤ 0xdbff
def isLow (n : Nat) : Bool := 0xdc00 ≤ n && n ≤ 0xdfff

/-- One half of a surrogate pair stands for no character. -/
def charOf (n : Nat) : Char := if isHigh n || isLow n then '\ufffd' else Char.ofNat n

/-- What four hexadecimal digits stand for, or they and the escaped low half behind them, and
how many characters behind the `u` that is. At least one character has to follow. -/
def escapedPoint? (offset : Nat) (cs : List Char) : Except ReadError (Char × Nat) :=
  if (cs.drop 4).isEmpty then .error (.syntaxAt .codePoint (offset - 1))
  else
    match hexFour? cs with
    | none => .error (.syntaxAt .codePoint (offset - 1))
    | some n =>
      match isHigh n && !(cs.drop 10).isEmpty, cs.drop 4 with
      | true, '\\' :: 'u' :: more =>
        match hexFour? more with
        | none => .error (.syntaxAt .codePoint (offset + 5))
        | some low =>
          if isLow low then
            .ok (Char.ofNat (0x10000 + (n - 0xd800) * 0x400 + (low - 0xdc00)), 10)
          else .ok (charOf n, 4)
      | _, _ => .ok (charOf n, 4)

/-- The characters of a string after its opening quote, which stands at `start`, and what
follows its closing quote. The fuel bounds the number of characters left. -/
def readChars (start : Nat) : Nat → Cursor → List Char → Except ReadError (List Char × Cursor)
  | 0, _, _ => .error (.syntaxAt .unterminated start)
  | fuel + 1, c, read =>
    match c.rest with
    | [] => .error (.syntaxAt .unterminated start)
    | '"' :: _ => .ok (read.reverse, c.skip 1)
    | '\\' :: 'u' :: more => do
      let (ch, width) ← escapedPoint? (c.offset + 2) more
      readChars start fuel (c.skip (2 + width)) (ch :: read)
    | '\\' :: e :: _ =>
      match simpleEscape? e with
      | some ch => readChars start fuel (c.skip 2) (ch :: read)
      | none => c.fail .escape
    | ['\\'] => .error (.syntaxAt .unterminated start)
    | ch :: _ =>
      if ch.toNat ≤ 0x1f then c.fail .control
      else readChars start fuel (c.skip 1) (ch :: read)

/-- A string whose opening quote stands at the cursor. The fuel is at least the number of
characters left. -/
def readString (fuel : Nat) (c : Cursor) : Except ReadError (String × Cursor) := do
  let (cs, after) ← readChars c.offset fuel (c.skip 1) []
  return (String.ofList cs, after)

/-! ### Numbers -/

/-- The fraction at the front: a point with at least one digit. -/
def fraction (cs : List Char) : List Char :=
  match cs with
  | '.' :: d :: rest => if d.isDigit then d :: rest.takeWhile Char.isDigit else []
  | _ => []

/-- The exponent at the front and its length: a letter, a sign or none, at least one digit. -/
def exponent (cs : List Char) : Option (Int × Nat) :=
  match cs with
  | 'e' :: rest | 'E' :: rest =>
    let (neg, body) := Reading.sign rest
    let signed := neg || rest.head? == some '+'
    let ds := body.takeWhile Char.isDigit
    if ds.isEmpty then none
    else
      let n := Reading.naturalOf ds
      some (if neg then -(n : Int) else n, 1 + signed.toNat + ds.length)
  | _ => none

/-- The whole part at the front: a zero alone, or digits that do not start with one. -/
def whole (cs : List Char) : List Char :=
  match cs with
  | '0' :: _ => ['0']
  | _ => cs.takeWhile Char.isDigit

/-- A number whose sign and whole part have been read. Without fraction and exponent it is
whole. -/
def afterWhole (neg : Bool) (ds : List Char) (after : Cursor) : Except ReadError (Value × Cursor) :=
  let part := fraction after.rest
  let behind := if part.isEmpty then after else after.skip (1 + part.length)
  match part.isEmpty, exponent behind.rest with
  | true, none =>
    if maxDigits < ds.length then .error (.tooManyDigits ds.length)
    else
      let n : Int := Reading.naturalOf ds
      .ok (.int (if neg then -n else n), behind)
  | _, e =>
    let (power, width) := e.getD (0, 0)
    let x := Double.ofDecimal neg (Reading.naturalOf (ds ++ part)) (power - part.length)
    .ok (.dbl x, behind.skip width)

/-- A number at the cursor. -/
def readNumber (c : Cursor) : Except ReadError (Value × Cursor) :=
  let neg := c.head? == some '-'
  let body := if neg then c.skip 1 else c
  let ds := whole body.rest
  if ds.isEmpty then c.fail .expectingValue else afterWhole neg ds (body.skip ds.length)

/-! ### Values -/

/-- The words for constants and for what no digits can say. -/
def words : List (String × Value) :=
  [("null", .null), ("true", .bool true), ("false", .bool false), ("NaN", .dbl .nan),
    ("Infinity", .dbl (.infinite false)), ("-Infinity", .dbl (.infinite true))]

def readWord? (c : Cursor) : Option (Value × Cursor) :=
  words.findSome? fun (w, v) =>
    if w.toList.isPrefixOf c.rest then some (v, c.skip w.length) else none

mutual

/-- A value at the cursor. The fuel bounds the number of steps; every value, item and field
takes at least one character. -/
def readValue : Nat → Cursor → Except ReadError (Value × Cursor)
  | 0, c => c.fail .expectingValue
  | fuel + 1, c =>
    match c.head? with
    | some '"' => do
      let (s, after) ← readString fuel c
      return (.str s, after)
    | some '\x7b' => do
      let inside := (c.skip 1).spaces
      if inside.head? = some '\x7d' then return (.obj [], inside.skip 1)
      let (fields, after) ← readFields fuel inside []
      return (.obj fields, after)
    | some '[' => do
      let inside := (c.skip 1).spaces
      if inside.head? = some ']' then return (.list [], inside.skip 1)
      let (items, after) ← readItems fuel inside []
      return (.list items, after)
    | _ =>
      match readWord? c with
      | some found => .ok found
      | none => readNumber c

/-- The items of a list from the first or the next one, up to the closing bracket. -/
def readItems : Nat → Cursor → List Value → Except ReadError (List Value × Cursor)
  | 0, c, _ => c.fail .expectingValue
  | fuel + 1, c, read => do
    let (v, after) ← readValue fuel c
    let next := after.spaces
    match next.head? with
    | some ']' => return ((v :: read).reverse, next.skip 1)
    | some ',' => readItems fuel (next.skip 1).spaces (v :: read)
    | _ => next.fail .expectingComma

/-- The fields of an object from the first or the next one, up to the closing brace. -/
def readFields : Nat → Cursor → List (String × Value) →
    Except ReadError (List (String × Value) × Cursor)
  | 0, c, _ => c.fail .expectingName
  | fuel + 1, c, read => do
    if c.head? ≠ some '"' then c.fail .expectingName
    let (key, after) ← readString fuel c
    let colon := after.spaces
    if colon.head? ≠ some ':' then colon.fail .expectingColon
    let (v, behind) ← readValue fuel (colon.skip 1).spaces
    let next := behind.spaces
    match next.head? with
    | some '\x7d' => return (Fields.ofEntries ((key, v) :: read).reverse, next.skip 1)
    | some ',' => readFields fuel (next.skip 1).spaces ((key, v) :: read)
    | _ => next.fail .expectingComma

end

/-- The value that a text spells, with nothing but spaces around it, however deep. -/
def readDeep (s : List Char) : Except ReadError Value := do
  if s.head? = some '\ufeff' then (Cursor.mk s 0).fail .mark
  let (v, after) ← readValue (2 * s.length + 2) (Cursor.mk s 0).spaces
  let last := after.spaces
  if last.rest.isEmpty then return v else last.fail .extraData

/-! ### Depth -/

/-- How many containers may stand inside one another. -/
def maxDepth : Nat := 985

/-- The first container that opens where as many are open as may be, at which character; `quoted`
tells that the text goes on inside a string. -/
def firstTooDeep (place depth : Nat) (quoted : Bool) : List Char → Option (Nat × Container)
  | [] => none
  | '"' :: cs => firstTooDeep (place + 1) depth (!quoted) cs
  | '\\' :: c :: cs =>
    if quoted then firstTooDeep (place + 2) depth quoted cs
    else firstTooDeep (place + 1) depth quoted (c :: cs)
  | c :: cs =>
    let opened : Option Container :=
      if quoted then none
      else if c = '[' then some .list
      else if c = '\x7b' then some .object
      else none
    match opened with
    | some container =>
      if depth < maxDepth then firstTooDeep (place + 1) (depth + 1) quoted cs
      else some (place, container)
    | none =>
      let closes := !quoted && (c = ']' || c = '\x7d')
      firstTooDeep (place + 1) (if closes then depth - 1 else depth) quoted cs

/-- The value that a text spells. A text is read up to a container that would stand too deep, and
is too deep if nothing is wrong with it so far. -/
def read (s : List Char) : Except ReadError Value :=
  match firstTooDeep 0 0 false s with
  | none => readDeep s
  | some (place, container) =>
    match readDeep (s.take place) with
    | .error (.syntaxAt .expectingValue offset) =>
      .error (if offset = place then .tooDeep container else .syntaxAt .expectingValue offset)
    | found => found

/-! ### Places -/

/-- The line of a character, from 1. -/
def lineOf (s : List Char) (offset : Nat) : Nat := (s.take offset).count '\n' + 1

/-- The column of a character, from 1. -/
def columnOf (s : List Char) (offset : Nat) : Nat :=
  ((s.take offset).reverse.takeWhile (· != '\n')).length + 1

def Container.name : Container → String
  | .list => "array"
  | .object => "object"

def ReadError.tooDeepMessage (container : Container) : String :=
  "maximum recursion depth exceeded while decoding a JSON " ++ container.name
    ++ " from a unicode string"

def ReadError.tooManyDigitsMessage (count : Nat) : String :=
  s!"Exceeds the limit ({maxDigits} digits) for integer string conversion: value has {count} "
    ++ "digits; use sys.set_int_max_str_digits() to increase the limit"

end MetricDesk.Json
