import MetricDesk.Text.Scan

/-! Hosts that are told by numbers: four numbers between points, or eight groups of hexadecimal
digits between colons. -/
namespace MetricDesk.Http

/-- A number from 0 to 255 without zeros in front. -/
def isOctet (cs : List Char) : Bool :=
  cs.all Char.isDigit && cs.length ≤ 3 &&
    match cs with
    | [] => false
    | ['0'] => true
    | c :: _ => c != '0' && (String.ofList cs).toNat?.any (· ≤ 255)

/-- Four numbers with points between them. -/
def isQuad (cs : List Char) : Bool :=
  let parts := Text.parts (· = '.') cs
  parts.length = 4 && parts.all isOctet

/-- Digits in four groups, with any character between two of them. Whoever writes a host like this
means four numbers. -/
def looksLikeQuad (cs : List Char) : Bool :=
  let runs := Text.parts (!·.isDigit) cs
  runs.all (!·.isEmpty) && runs.length ≤ 4
    && 4 - runs.length ≤ runs.foldl (fun n r => n + (r.length - 1) / 2) 0

def isHexDigit (c : Char) : Bool := c.isDigit || ('a' ≤ c && c ≤ 'f') || ('A' ≤ c && c ≤ 'F')

/-- One to four hexadecimal digits. -/
def isGroup (cs : List Char) : Bool := cs.all isHexDigit && cs.length ≤ 4 && !cs.isEmpty

/-- How many groups there are between colons. Four numbers may stand for the last two if they end
the host. -/
def groups? (isLast : Bool) (cs : List Char) : Option Nat :=
  if cs.isEmpty then some 0
  else
    let parts := Text.parts (· = ':') cs
    match parts.getLast? with
    | some tail =>
      if parts.dropLast.all isGroup then
        if isGroup tail then some parts.length
        else if isLast && isQuad tail then some (parts.length + 1)
        else none
      else none
    | none => none

/-- What stands in front of the first two colons in a row, and what stands behind them. -/
def gap? : List Char → Option (List Char × List Char)
  | ':' :: ':' :: rest => some ([], rest)
  | c :: rest => (gap? rest).map fun (front, behind) => (c :: front, behind)
  | [] => none

/-- Eight groups; two colons in a row stand once for any number of groups that are zero. -/
def isEight (cs : List Char) : Bool :=
  match gap? cs with
  | none => groups? true cs == some 8
  | some (front, behind) =>
    match groups? false front, groups? true behind with
    | some m, some n => m + n ≤ 7
    | _, _ => false

/-- Eight groups, and perhaps a percent sign and the name of a zone that they count in. -/
def isEightInZone (cs : List Char) : Bool :=
  isEight (cs.takeWhile (· != '%')) &&
    match cs.dropWhile (· != '%') with
    | [] => true
    | _ :: zone => !zone.isEmpty && !zone.contains '%'

end MetricDesk.Http
