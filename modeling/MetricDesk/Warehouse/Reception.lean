import MetricDesk.Text.Word

/-! What the warehouse gets of a statement. A colon in front of a name marks a place where a value
is bound; behind a backslash it is a plain colon. -/
namespace MetricDesk.Warehouse

/-- A character of a bound name. -/
def isNameChar (c : Char) : Bool := Text.isWordChar c || c = '$'

/-- The backslash goes where a colon follows, unless another colon ends the name behind it. The
fuel is the number of characters. -/
def plainColons : Nat → List Char → List Char
  | 0, cs => cs
  | fuel + 1, '\\' :: ':' :: cs =>
    let name := cs.takeWhile isNameChar
    let rest := cs.dropWhile isNameChar
    if rest.head? = some ':' then '\\' :: plainColons fuel (':' :: cs)
    else ':' :: name ++ plainColons fuel rest
  | fuel + 1, c :: cs => c :: plainColons fuel cs
  | _, [] => []

def received (text : String) : String :=
  String.ofList (plainColons text.length text.toList)

end MetricDesk.Warehouse
