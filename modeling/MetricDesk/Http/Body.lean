import MetricDesk.Json.Reader

/-! The body of a request: a JSON object with some texts in it. What is wrong with it is told by
the place where it is wrong. -/
namespace MetricDesk.Http

inductive BodyFault where
  | missing
  | notObject
  | notText
  | tooShort (least : Nat)
  | tooLong (most : Nat)
  /-- It is no JSON, from this character on. -/
  | notJson (offset : Nat)
  deriving DecidableEq, Repr

namespace BodyFault

def kind : BodyFault → String
  | .missing => "missing"
  | .notObject => "model_attributes_type"
  | .notText => "string_type"
  | .tooShort _ => "string_too_short"
  | .tooLong _ => "string_too_long"
  | .notJson _ => "json_invalid"

def characters (n : Nat) : String := toString n ++ if n = 1 then " character" else " characters"

def message : BodyFault → String
  | .missing => "Field required"
  | .notObject => "Input should be a valid dictionary or object to extract fields from"
  | .notText => "Input should be a valid string"
  | .tooShort least => "String should have at least " ++ characters least
  | .tooLong most => "String should have at most " ++ characters most
  | .notJson _ => "JSON decode error"

end BodyFault

/-- A fault, the place below the body where it is, and what is found there. -/
structure BodyProblem where
  fault : BodyFault
  place : List Value
  found : Value

/-- A text of the body and the bounds of its length in characters. -/
structure TextField where
  name : String
  /-- A second name under which it is accepted. -/
  other : String
  least : Nat
  most : Option Nat

namespace TextField

def question : TextField := ⟨"question", "question", 3, some 500⟩
def tenant : TextField := ⟨"tenantId", "tenant_id", 1, none⟩

/-- The field under the name that it has there, the first name being preferred. -/
def get? (f : TextField) (fields : Fields) : Option (String × Value) :=
  [f.name, f.other].findSome? fun name => (Fields.get? fields name).map fun v => (name, v)

/-- What is wrong with a text. -/
def fault? (f : TextField) (s : String) : Option BodyFault :=
  if s.length < f.least then some (.tooShort f.least)
  else match f.most with
    | some most => if most < s.length then some (.tooLong most) else none
    | none => none

def read (f : TextField) (fields : Fields) : Except BodyProblem String :=
  match f.get? fields with
  | none => .error ⟨.missing, [.str f.name], .obj fields⟩
  | some (name, .str s) =>
    match f.fault? s with
    | none => .ok s
    | some fault => .error ⟨fault, [.str name], .str s⟩
  | some (name, v) => .error ⟨.notText, [.str name], v⟩

end TextField

/-- Why a body has no texts. -/
inductive BodyError where
  | invalid (problems : List BodyProblem)
  /-- The body cannot be read at all. -/
  | unreadable

/-! ### Characters -/

/-- How many octets make a character, and whether the first of them counts most. -/
inductive Encoding where
  | varying
  | pairs (firstMost : Bool)
  | quads (firstMost : Bool)
  deriving DecidableEq, Repr

/-- The zeros among the first octets tell, as no JSON starts with a zero character. -/
def Encoding.of : List Nat → Encoding
  | 0 :: 0 :: _ :: _ :: _ => .quads true
  | 0 :: _ :: _ :: _ :: _ => .pairs true
  | _ :: 0 :: 0 :: 0 :: _ => .quads false
  | _ :: 0 :: _ :: _ :: _ => .pairs false
  | [0, _] => .pairs true
  | [_, 0] => .pairs false
  | _ => .varying

/-- Octets two by two, as numbers. -/
def paired (firstMost : Bool) : List Nat → Option (List Nat)
  | [] => some []
  | [_] => none
  | a :: b :: rest => do
    return (if firstMost then 256 * a + b else 256 * b + a) :: (← paired firstMost rest)

/-- Numbers of sixteen bits as characters, two halves of one put together. -/
def joined : List Nat → List Char
  | [] => []
  | [n] => [Json.charOf n]
  | high :: low :: rest =>
    if Json.isHigh high && Json.isLow low then
      Char.ofNat (0x10000 + (high - 0xd800) * 0x400 + (low - 0xdc00)) :: joined rest
    else Json.charOf high :: joined (low :: rest)

/-- Numbers of sixteen bits two by two as characters. -/
def widened (firstMost : Bool) : List Nat → Option (List Char)
  | [] => some []
  | [_] => none
  | a :: b :: rest => do
    let n := if firstMost then 65536 * a + b else 65536 * b + a
    if 0x110000 ≤ n then none
    else return Json.charOf n :: (← widened firstMost rest)

/-- A mark of the byte order in front of a body is no part of it. -/
def withoutMark : List Char → List Char
  | '\ufeff' :: cs => cs
  | cs => cs

/-- The characters of a body, if its octets make any. -/
def characters? (body : String) : Option (List Char) :=
  let octets := body.toUTF8.toList.map UInt8.toNat
  match Encoding.of octets with
  | .varying => some (withoutMark body.toList)
  | .pairs firstMost => (paired firstMost octets).map joined
  | .quads firstMost => (paired firstMost octets).bind (widened firstMost)

/-- The value of a body; an empty one has none. -/
def bodyValue (body : String) : Except BodyError (Option Value) :=
  if body.isEmpty then .ok none
  else match (characters? body).map Json.read with
    | some (.ok v) => .ok (some v)
    | some (.error (.syntaxAt _ offset)) =>
      .error (.invalid [⟨.notJson offset, [.nat offset], .null⟩])
    | _ => .error .unreadable

/-- The texts of a body by its fields, or everything that is wrong with them. -/
def texts (fields : List TextField) (body : String) : Except BodyError (List String) := do
  match ← bodyValue body with
  | none => throw (.invalid [⟨.missing, [], .null⟩])
  | some (.obj o) =>
    let found := fields.map (·.read o)
    let problems := found.filterMap fun r => match r with
      | .error p => some p
      | .ok _ => none
    if problems.isEmpty then return found.filterMap Except.toOption
    else throw (.invalid problems)
  | some v => throw (.invalid [⟨.notObject, [], v⟩])

end MetricDesk.Http
