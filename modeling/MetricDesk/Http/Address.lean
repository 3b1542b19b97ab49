import MetricDesk.Http.Host.Name
import MetricDesk.Http.Host.Numbers
import MetricDesk.Number.Reading

/-! Addresses: what a caller writes to say what is asked for, in full or relative to the service,
and the path that it stands for. Who is asked makes no difference as long as it is somebody, and
the query makes none. -/
namespace MetricDesk.Http

/-- Why an address stands for no path. -/
inductive AddressFault where
  | tooLong
  /-- A part has become too long with its characters written out. -/
  | partTooLong (part : String)
  /-- A control character, at a place. -/
  | control (c : Char) (place : Nat)
  | badQuad (host : String)
  | badGroups (host : String)
  | badName (host : String)
  | badPort (text : String)
  /-- A host that cannot be told in basic characters. -/
  | notBasic (host : List Char)
  | badWrittenName (fault : NameFault)
  | startsWithSlashes
  | startsWithColon
  deriving DecidableEq, Repr

/-- What is said of the first characters in a row that are not basic. -/
def notBasicMessage (host : List Char) : String :=
  let front := host.takeWhile (·.toNat < 0x80)
  let run := (host.drop front.length).takeWhile (0x80 ≤ ·.toNat)
  let what := match run with
    | [c] =>
      "character '" ++ String.ofList (Text.escapedPoint c.toNat) ++ "' in position "
        ++ toString front.length
    | _ =>
      "characters in position " ++ toString front.length ++ "-"
        ++ toString (front.length + run.length - 1)
  "'ascii' codec can't encode " ++ what ++ ": ordinal not in range(128)"

def AddressFault.message : AddressFault → String
  | .tooLong => "URL too long"
  | .partTooLong part => "URL component '" ++ part ++ "' too long"
  | .control c place =>
    "Invalid non-printable ASCII character in URL, " ++ Text.quoted (String.singleton c)
      ++ " at position " ++ toString place ++ "."
  | .badQuad host => "Invalid IPv4 address: " ++ Text.quoted host
  | .badGroups host => "Invalid IPv6 address: " ++ Text.quoted host
  | .badName host => "Invalid IDNA hostname: " ++ Text.quoted host
  | .badPort text => "Invalid port: " ++ Text.quoted text
  | .notBasic host => notBasicMessage host
  | .badWrittenName fault => fault.message
  | .startsWithSlashes => "Relative URLs cannot have a path starting with '//'"
  | .startsWithColon => "Relative URLs cannot have a path starting with ':'"

/-! ### Who is asked -/

/-- What stands between two slashes in front and the path. -/
structure Authority where
  user : List Char := []
  host : List Char := []
  port : List Char := []

namespace Authority

/-- The user stands in front of the last at sign, the port behind the first colon that is not
inside of square brackets. -/
def ofChars (cs : List Char) : Authority :=
  let plain := (cs.reverse.takeWhile (· != '@')).reverse
  let user := cs.take (cs.length - plain.length - 1)
  let host := match plain with
    | '[' :: _ =>
      if plain.contains ']' then (plain.reverse.dropWhile (· != ']')).reverse
      else plain.takeWhile (· != ':')
    | _ => plain.takeWhile (· != ':')
  let port := match plain.drop host.length with
    | ':' :: port => port
    | port => port
  ⟨user, host, port⟩

/-- Whether a host stands in square brackets. -/
def isBracketed (host : List Char) : Bool :=
  2 ≤ host.length && host.head? = some '[' && host.getLast? = some ']'

/-- A host of basic characters may be anything but numbers that are none. -/
def checkHost (host : List Char) : Except AddressFault Unit :=
  let text := String.ofList host
  if looksLikeQuad host then
    if isQuad host then .ok () else .error (.badQuad text)
  else if isBracketed host then
    if isEightInZone (host.drop 1).dropLast then .ok () else .error (.badGroups text)
  else if host.all (·.toNat < 0x80) then .ok ()
  else
    match HostName.check (Text.lower text).toList with
    | .ok _ => .ok ()
    | .error _ => .error (.badName text)

/-- A host of basic characters as it goes out: in small letters, and with characters that have no
place in it written by their octet. -/
def written (host : List Char) : List Char :=
  host.flatMap fun c =>
    if [' ', '<', '>', '[', ']', '^'].contains c then '%' :: Text.hexPadded 2 c.toNat
    else [c.toLower]

/-- The ports that go without saying. -/
def usualPorts : List (String × Int) :=
  [("ftp", 21), ("http", 80), ("https", 443), ("ws", 80), ("wss", 443)]

/-- The port, unless it goes without saying. -/
def portNumber? (scheme port : List Char) : Except AddressFault (Option Int) :=
  if port.isEmpty then .ok none
  else
    match Reading.whole (String.ofList port) with
    | .error _ => .error (.badPort (String.ofList port))
    | .ok n => .ok (if usualPorts.lookup (String.ofList scheme) = some n then none else some n)

end Authority

/-- The parts of an address that matter. -/
structure Address where
  scheme : List Char
  authority : Authority
  /-- Somebody is named between two slashes in front and the path. -/
  isNamed : Bool
  path : List Char
  /-- What stands behind a question mark, if there is one. -/
  query : Option (List Char)

namespace Address

/-- The most characters of an address, and of each of its parts. -/
def limit : Nat := 65536

/-- A scheme before its colon, if there is one, and what follows it. -/
def schemeAndRest (cs : List Char) : List Char × List Char :=
  let word := match cs with
    | c :: _ =>
      if c.isAlpha then cs.takeWhile fun c => c.isAlphanum || c = '+' || c = '.' || c = '-' else []
    | [] => []
  match cs.drop word.length with
  | ':' :: rest => (word, rest)
  | _ => ([], cs)

def parse (text : String) : Except AddressFault Address := do
  let cs := text.toList
  if limit < cs.length then throw .tooLong
  let isControl (c : Char) : Bool := c.toNat < 0x20 || c.toNat = 0x7f
  match cs.findIdx? isControl with
  | some place => throw (.control (cs.getD place ' ') place)
  | none => pure ()
  let (scheme, rest) := schemeAndRest cs
  let (authority, rest) := match rest with
    | '/' :: '/' :: rest => (rest.takeWhile fun c => c != '/' && c != '?' && c != '#',
        rest.dropWhile fun c => c != '/' && c != '?' && c != '#')
    | _ => ([], rest)
  let authority := Authority.ofChars authority
  Authority.checkHost authority.host
  let port ← Authority.portNumber? scheme authority.port
  let isNamed := !authority.user.isEmpty || !authority.host.isEmpty || port.isSome
  let path := rest.takeWhile fun c => c != '?' && c != '#'
  let query := match rest.drop path.length with
    | '?' :: behind => some (behind.takeWhile (· != '#'))
    | _ => none
  if scheme.isEmpty && !isNamed then
    if ['/', '/'].isPrefixOf path then throw .startsWithSlashes
    if [':'].isPrefixOf path then throw .startsWithColon
  return { scheme, authority, isNamed, path, query }

/-- An address in full says how and whom to ask. -/
def isFull (a : Address) : Bool := !a.scheme.isEmpty && !a.authority.host.isEmpty

/-! ### Paths -/

/-- A single dot is left out, and two dots take the part before them away, but for the start. -/
def resolved (parts : List (List Char)) : List (List Char) :=
  (parts.foldl (fun kept part =>
    if part = ['.'] then kept
    else if part = ['.', '.'] then (if kept = [[]] then kept else kept.drop 1)
    else part :: kept) []).reverse

def withoutDots (path : List Char) : List Char :=
  ['/'].intercalate (resolved (Text.parts (· = '/') path))

/-- The value of a digit in base sixteen. -/
def hexValue? (c : Char) : Option Nat :=
  if c.isDigit then some (c.toNat - '0'.toNat)
  else if 'a' ≤ c ∧ c ≤ 'f' then some (c.toNat - 'a'.toNat + 10)
  else if 'A' ≤ c ∧ c ≤ 'F' then some (c.toNat - 'A'.toNat + 10)
  else none

/-- Octets behind percent signs in their plain form. No path of the service has any beyond ASCII,
so those need not be put together. -/
def decoded : List Char → List Char
  | '%' :: a :: b :: rest =>
    match hexValue? a, hexValue? b with
    | some high, some low => Char.ofNat (16 * high + low) :: decoded rest
    | _, _ => '%' :: decoded (a :: b :: rest)
  | c :: rest => c :: decoded rest
  | [] => []

/-- The path as it is written behind the root of the service. -/
def ownPath (a : Address) : List Char :=
  let own := if a.scheme.isEmpty && !a.isNamed then a.path else withoutDots a.path
  '/' :: own.dropWhile (· = '/')

/-- An address in full has a path of its own; any other is read from the root of the service. -/
def resolvedPath (a : Address) : List Char :=
  if a.isFull then withoutDots a.path else withoutDots a.ownPath

/-- Characters of a query that are written out; those of a path are four more. -/
def writtenInQuery : List Char := [' ', '"', '#', '<', '>']

def writtenInPath : List Char := writtenInQuery ++ ['?', '\x60', '\x7b', '\x7d']

/-- How long a text is with some characters, and all that are not basic, written out: three
characters for every octet. -/
def writtenLength (out : List Char) (cs : List Char) : Nat :=
  cs.foldl (fun n c => n + if c.toNat < 0x80 && !out.contains c then 1 else 3 * c.utf8Size) 0

/-- An address that is read from the root of the service is written anew, and may get too long. -/
def checkLength (a : Address) : Except AddressFault Unit :=
  if a.isFull then .ok ()
  else if limit < writtenLength writtenInPath a.ownPath then .error (.partTooLong "path")
  else if limit < writtenLength writtenInQuery (a.query.getD []) then .error (.partTooLong "query")
  else .ok ()

def ofText (text : String) : Except AddressFault Address := do
  let a ← parse text
  a.checkLength
  return a

/-- The path that is asked for. -/
def target (a : Address) : String :=
  let path := a.resolvedPath
  String.ofList (decoded (if path.isEmpty then ['/'] else path))

/-- A request in full goes out to its host. A zone has to be told in basic characters, and a name
that is written for another one is read again. -/
def checkHost (a : Address) : Except AddressFault Unit :=
  if a.isFull then
    let host := a.authority.host
    let isBasic := host.all (·.toNat < 0x80)
    if Authority.isBracketed host then
      if isBasic then .ok () else .error (.notBasic host)
    else if isBasic && Label.mark.isPrefixOf (Authority.written host) then
      (HostName.checkWritten (Authority.written host)).mapError .badWrittenName
    else .ok ()
  else .ok ()

end Address
end MetricDesk.Http
