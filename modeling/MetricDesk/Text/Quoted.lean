import MetricDesk.Number.Digits
import MetricDesk.Text.Printable

/-! Quoted text, as messages show a string inside a list or an object: in single quotes, or in
double quotes if the text has a single quote and no double one. -/
namespace MetricDesk.Text

/-- The digits of a number in base sixteen, filled up with zeros in front. -/
def hexPadded (width n : Nat) : List Char :=
  let ds := Nat.toDigits 16 n
  List.replicate (width - ds.length) '0' ++ ds

/-- A character that does not print, by its code point in the shortest of three widths. -/
def escapedPoint (n : Nat) : List Char :=
  if n < 0x100 then '\\' :: 'x' :: hexPadded 2 n
  else if n < 0x10000 then '\\' :: 'u' :: hexPadded 4 n
  else '\\' :: 'U' :: hexPadded 8 n

def quotedChar (quote c : Char) : List Char :=
  if c = quote ∨ c = '\\' then ['\\', c]
  else if c = '\t' then ['\\', 't']
  else if c = '\n' then ['\\', 'n']
  else if c = '\r' then ['\\', 'r']
  else if isPrintable c then [c]
  else escapedPoint c.toNat

def quoted (s : String) : String :=
  let cs := s.toList
  let quote := if cs.contains '\'' && !cs.contains '"' then '"' else '\''
  String.ofList (quote :: cs.flatMap (quotedChar quote) ++ [quote])

/-- Code points in quotes; those that are no characters do not print. -/
def quotedPoints (points : List Nat) : String :=
  let quote := if points.contains '\''.toNat && !points.contains '"'.toNat then '"' else '\''
  String.ofList (quote :: points.flatMap (fun n =>
    if n.isValidChar then quotedChar quote (Char.ofNat n) else escapedPoint n) ++ [quote])

end MetricDesk.Text
