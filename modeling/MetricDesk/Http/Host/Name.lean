import MetricDesk.Http.Host.Label
import MetricDesk.Text.Case
import MetricDesk.Text.Scan

/-! Names of hosts: labels with points between them, one of which may stand at the end. -/
namespace MetricDesk.Http

/-- Why a text is no name of a host. -/
inductive NameFault where
  | empty
  | tooLong
  | labelTooLong
  | label (fault : LabelFault)
  deriving DecidableEq, Repr

def NameFault.message : NameFault → String
  | .empty => "Empty domain"
  | .tooLong => "Domain too long"
  | .labelTooLong => "Label too long"
  | .label fault => fault.message

namespace HostName

/-- Four characters are points. -/
def isPoint (c : Char) : Bool := ['.', '\u3002', '\uff0e', '\uff61'].contains c

/-- The labels of a name, and whether a point stands behind the last. -/
def labels (cs : List Char) : List (List Char) × Bool :=
  let parts := Text.parts isPoint cs
  if parts.getLast? = some [] then (parts.dropLast, true) else (parts, false)

/-- The most basic characters of a name. -/
def longest (pointBehind : Bool) : Nat := if pointBehind then 254 else 253

/-- The most basic characters of a label. -/
def longestLabel : Nat := 63

/-- A name that can be written with basic characters. -/
def check (cs : List Char) : Except NameFault Unit := do
  if longest true < cs.length then throw .tooLong
  if cs.isEmpty then throw .empty
  let (labels, pointBehind) := labels cs
  let sizes ← labels.mapM fun l => do
    let n ← (Label.size l).mapError .label
    if longestLabel < n then throw .labelTooLong
    return n
  let points := if pointBehind then sizes.length else sizes.length - 1
  if longest pointBehind < sizes.foldl (· + ·) points then throw .tooLong

/-- A name in basic characters that can be read: its labels stand for what names are made of. -/
def checkWritten (cs : List Char) : Except NameFault Unit := do
  if longest true < cs.length then throw .tooLong
  if cs.isEmpty then throw .empty
  (labels cs).1.forM fun l => (Label.checkBasic l).mapError .label

end HostName
end MetricDesk.Http
