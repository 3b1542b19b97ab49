import MetricDesk.Text.Ranges

/-! White space: the blanks and line ends of every script and the four information separators. -/
namespace MetricDesk.Text

/-- The code points of white space, as closed ranges in ascending order. -/
def blankRanges : List (Nat × Nat) := [
    (9, 13), (28, 32), (133, 133), (160, 160), (5760, 5760), (8192, 8202), (8232, 8233), (8239,
    8239), (8287, 8287), (12288, 12288)]

def isBlank (c : Char) : Bool := covers blankRanges c.toNat

/-- The characters without the white space at both ends. -/
def trimmed (cs : List Char) : List Char :=
  ((cs.dropWhile isBlank).reverse.dropWhile isBlank).reverse

/-- The text without the white space at both ends. -/
def strip (s : String) : String := String.ofList (trimmed s.toList)

end MetricDesk.Text
