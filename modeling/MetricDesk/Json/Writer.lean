import MetricDesk.Value.Text

/-! Writing JSON. What a document decides about spaces, escapes and the order of keys is one
record; keys are quoted, numbers have the shortest text that reads back. -/
namespace MetricDesk.Json

/-- What a written document decides. -/
structure Style where
  comma : String
  colon : String
  /-- Characters outside printable ASCII are escaped. -/
  ascii : Bool

/-- No spaces, ASCII only. -/
def compact : Style := ⟨",", ":", true⟩

/-- No spaces, characters as they are. -/
def canonical : Style := ⟨",", ":", false⟩

/-- A space behind commas and colons, ASCII only. -/
def spaced : Style := ⟨", ", ": ", true⟩

def escapedUnit (n : Nat) : List Char := '\\' :: 'u' :: Text.hexPadded 4 n

/-- Code points beyond sixteen bits are written as a pair of surrogates. -/
def escapedChar (c : Char) : List Char :=
  let n := c.toNat
  if n < 0x10000 then escapedUnit n
  else
    let high := 0xd800 + (n - 0x10000) / 0x400
    let low := 0xdc00 + (n - 0x10000) % 0x400
    escapedUnit high ++ escapedUnit low

def quotedChar (ascii : Bool) (c : Char) : List Char :=
  if c = '"' then ['\\', '"']
  else if c = '\\' then ['\\', '\\']
  else if c = '\n' then ['\\', 'n']
  else if c = '\r' then ['\\', 'r']
  else if c = '\t' then ['\\', 't']
  else if c = '\x08' then ['\\', 'b']
  else if c = '\x0c' then ['\\', 'f']
  else if c.toNat < 0x20 then escapedChar c
  else if ascii && 0x7e < c.toNat then escapedChar c
  else [c]

def quoted (ascii : Bool) (s : String) : List Char :=
  '"' :: s.toList.flatMap (quotedChar ascii) ++ ['"']

def numberText : Number → String
  | .int n => toString n
  | .dbl x => Layout.document.double Digits.shortest x

mutual

/-- The characters of a value. Days, moments, decimals and spans have no JSON form of their own and
stand as strings. -/
def write (style : Style) : Value → List Char
  | .null => ['n', 'u', 'l', 'l']
  | .bool b => if b then ['t', 'r', 'u', 'e'] else ['f', 'a', 'l', 's', 'e']
  | .num n => (numberText n).toList
  | .str s => quoted style.ascii s
  | .list xs => '[' :: writeItems style xs ++ [']']
  | .obj fs => '\x7b' :: writeFields style fs ++ ['\x7d']
  | .day d => quoted style.ascii d.iso
  | .moment m => quoted style.ascii m.iso
  | .decimal x => quoted style.ascii x.text
  | .span micros => quoted style.ascii (Span.text micros)

def writeItems (style : Style) : List Value → List Char
  | [] => []
  | [x] => write style x
  | x :: y :: xs => write style x ++ style.comma.toList ++ writeItems style (y :: xs)

def writeFields (style : Style) : List (String × Value) → List Char
  | [] => []
  | [(k, v)] => quoted style.ascii k ++ style.colon.toList ++ write style v
  | (k, v) :: f :: fs =>
    quoted style.ascii k ++ style.colon.toList ++ write style v ++ style.comma.toList
      ++ writeFields style (f :: fs)

end

def text (style : Style) (v : Value) : String := String.ofList (write style v)

/-! ### Sorted keys -/

/-- A field among fields in ascending order of their keys. -/
def insertField (k : String) (v : Value) : List (String × Value) → List (String × Value)
  | [] => [(k, v)]
  | (k', v') :: rest =>
    if k ≤ k' then (k, v) :: (k', v') :: rest else (k', v') :: insertField k v rest

mutual

/-- The same value with the keys of every object in ascending order of code points. -/
def sorted : Value → Value
  | .list xs => .list (sortedItems xs)
  | .obj fs => .obj (sortedFields fs)
  | v => v

def sortedItems : List Value → List Value
  | [] => []
  | x :: xs => sorted x :: sortedItems xs

def sortedFields : List (String × Value) → List (String × Value)
  | [] => []
  | (k, v) :: fs => insertField k (sorted v) (sortedFields fs)

end

mutual

/-- The kind of the first part, in writing order, that has no JSON form. -/
def foreign? : Value → Option String
  | .list xs => foreignItem? xs
  | .obj fs => foreignField? fs
  | .day _ => some "date"
  | .moment _ => some "datetime"
  | .decimal _ => some "Decimal"
  | .span _ => some "timedelta"
  | _ => none

def foreignItem? : List Value → Option String
  | [] => none
  | x :: xs => (foreign? x).orElse fun _ => foreignItem? xs

def foreignField? : List (String × Value) → Option String
  | [] => none
  | (_, v) :: fs => (foreign? v).orElse fun _ => foreignField? fs

end

end MetricDesk.Json
