import RegistryGateway.Text.Blank
import RegistryGateway.Text.Numeral
import RegistryGateway.Url.Percent
import RegistryGateway.Url.Split

/-! Where a request is sent.  `Target.parse` reads a URL, or a path alone, into its parts in the
form in which they go out: scheme and host in lower case, the scheme's own port left out, dot
segments of a path behind a scheme or host resolved, and all that a part does not keep
percent-encoded. -/

namespace RegistryGateway.Url

/-- Why a text is not the target of a request. -/
inductive TargetFault
  /-- The text, or the part of it that is named, has too many characters. -/
  | tooLong (part : Option String)
  | control (c : Char) (position : Nat)
  | notPort (text : List Char)
  | notIpv4 (host : List Char)
  | notIpv6 (host : List Char)
  | notDomain (host : List Char)
  /-- A path behind a host does not start with a slash. -/
  | pathAfterHost
  | slashes
  | colon
  deriving DecidableEq

def TargetFault.message : TargetFault → String
  | .tooLong none => "URL too long"
  | .tooLong (some part) => s!"URL component '{part}' too long"
  | .control c position =>
    let shown := quotedText (String.singleton c)
    s!"Invalid non-printable ASCII character in URL, {shown} at position {position}."
  | .notPort text => "Invalid port: " ++ quotedText (String.ofList text)
  | .notIpv4 host => "Invalid IPv4 address: " ++ quotedText (String.ofList host)
  | .notIpv6 host => "Invalid IPv6 address: " ++ quotedText (String.ofList host)
  | .notDomain host => "Invalid IDNA hostname: " ++ quotedText (String.ofList host)
  | .pathAfterHost => "For absolute URLs, path must be empty or begin with '/'"
  | .slashes => "Relative URLs cannot have a path starting with '//'"
  | .colon => "Relative URLs cannot have a path starting with ':'"

/-- A target.  A query or fragment may be present and empty. -/
structure Target where
  scheme : List Char
  user : List Char
  host : List Char
  port : Option Int
  path : List Char
  query : Option (List Char)
  fragment : Option (List Char)
  deriving DecidableEq

/-! ## Authorities -/

/-- The text before the last at sign, empty when there is none, and the text after it. -/
def splitUser (authority : List Char) : List Char × List Char :=
  let pieces := splitOn '@' authority
  (joinChars ['@'] pieces.dropLast, pieces.getLast?.getD [])

/-- A host and what follows it.  A host that starts with a bracket ends at the last closing one. -/
def splitHost (text : List Char) : List Char × List Char :=
  if text.head? = some '[' ∧ text.contains ']' then
    let after := (text.reverse.takeWhile (· ≠ ']')).reverse
    (text.take (text.length - after.length), after)
  else cut (· = ':') text

/-- The states after one more character of a text that is looked at as four runs of digits with one
character of any kind between runs: which run it is in, and whether that run has a digit. -/
def dottedStep (states : List (Nat × Bool)) (c : Char) : List (Nat × Bool) :=
  (states.flatMap fun (run, started) =>
    (if isDecimalDigit c then [(run, true)] else []) ++
      if started && run < 3 then [(run + 1, false)] else []).eraseDups

/-- Whether a host has the look of an IPv4 address: four runs of digits with one character,
whichever it is, between runs. -/
def looksDotted (host : List Char) : Bool := (host.foldl dottedStep [(0, false)]).contains (3, true)

/-- A host in the form in which it goes out; an IPv6 address loses its brackets. -/
def encodeHost (host : List Char) : Except TargetFault (List Char) :=
  if looksDotted host then if isIpv4 host then .ok host else .error (.notIpv4 host)
  else if host.head? = some '[' ∧ host.getLast? = some ']' then
    let address := (host.drop 1).dropLast
    if isIpv6 address then .ok address else .error (.notIpv6 host)
  else if host.all (·.toNat < 0x80) then
    .ok (percentEncode keptInHost (host.map Char.toLower))
  else .error (.notDomain host)

/-- The ports that go without saying. -/
def schemePorts : List (String × Int) :=
  [("ftp", 21), ("http", 80), ("https", 443), ("ws", 80), ("wss", 443)]

/-- The number of a port, which may have blanks around it, a sign, and underscores between
digits. -/
def portNumber? (text : List Char) : Option Int :=
  let (negative, rest) := afterSign (trim text)
  let (digits, rest) := leadingDigits rest
  if digits.isEmpty || !rest.isEmpty || digitLimit < digits.length then none
  else
    let size : Int := decimalValue digits
    some (if negative then -size else size)

/-- A port, unless it is absent or the one of its scheme. -/
def readPort (scheme text : List Char) : Except TargetFault (Option Int) :=
  if text.isEmpty then .ok none
  else
    match portNumber? text with
    | none => .error (.notPort text)
    | some n =>
      if schemePorts.contains (String.ofList scheme, n) then .ok none else .ok (some n)

/-! ## Paths -/

/-- The segments of a path with `.` left out and `..` taking the segment before it away; `kept`
holds the segments so far, the last first. -/
def resolveDots (kept : List (List Char)) : List (List Char) → List (List Char)
  | [] => kept.reverse
  | segment :: rest =>
    if segment = ['.'] then resolveDots kept rest
    else if segment = ['.', '.'] then
      resolveDots (if kept = [[]] then kept else kept.drop 1) rest
    else resolveDots (segment :: kept) rest

def normalPath (path : List Char) : List Char :=
  joinChars ['/'] (resolveDots [] (splitOn '/' path))

/-- What is wrong with a path, which depends on whether a scheme or a host stands before it. -/
def pathFault (hasScheme hasHost : Bool) (path : List Char) : Option TargetFault :=
  if hasHost then
    if path = [] ∨ path.head? = some '/' then none else some .pathAfterHost
  else if hasScheme then none
  else if path.take 2 = ['/', '/'] then some .slashes
  else if path.head? = some ':' then some .colon
  else none

/-! ## Targets -/

namespace Target

/-- The most characters that a target, or one part of it, may have. -/
def lengthLimit : Nat := 65536

/-- The host, an IPv6 address in brackets, and the port. -/
def place (t : Target) : List Char :=
  (if t.host.contains ':' then '[' :: (t.host ++ [']']) else t.host) ++
    match t.port with
    | some n => ':' :: (toString n).toList
    | none => []

def authority (t : Target) : List Char :=
  (if t.user.isEmpty then [] else t.user ++ ['@']) ++ t.place

/-- A part that may be absent, behind its mark. -/
def marked (mark : Char) : Option (List Char) → List Char
  | some part => mark :: part
  | none => []

def text (t : Target) : List Char :=
  (if t.scheme.isEmpty then [] else t.scheme ++ [':']) ++
    (if t.authority.isEmpty then [] else '/' :: '/' :: t.authority) ++
    t.path ++ marked '?' t.query ++ marked '#' t.fragment

/-- Whether the written form starts with a name and a colon. -/
def namesScheme (t : Target) : Bool :=
  match cut (fun c => c = '/' || c = ':') t.text with
  | (_ :: _, ':' :: _) => true
  | _ => false

/-- The path, a slash for the empty one, and the query. -/
def pathAndQuery (t : Target) : List Char :=
  (if t.path.isEmpty then ['/'] else t.path) ++ marked '?' t.query

/-- A target from the text of its parts. -/
def ofParts (scheme authority path : List Char) (query fragment : Option (List Char)) :
    Except TargetFault Target :=
  let (user, rest) := splitUser authority
  let (host, rest) := splitHost rest
  let port := if rest.head? = some ':' then rest.drop 1 else rest
  match encodeHost host with
  | .error e => .error e
  | .ok host =>
    match readPort scheme port with
    | .error e => .error e
    | .ok port =>
      let user := percentEncode keptInUser user
      let hasHost := !user.isEmpty || !host.isEmpty || port.isSome
      match pathFault (!scheme.isEmpty) hasHost path with
      | some e => .error e
      | none =>
        let path := if !scheme.isEmpty || hasHost then normalPath path else path
        .ok
          { scheme := scheme.map Char.toLower
            user := user
            host := host
            port := port
            path := percentEncode keptInPath path
            query := query.map (percentEncode keptInQuery)
            fragment := fragment.map (percentEncode keptInFragment) }

/-- The scheme in front of a colon, which may be empty, and the text after it. -/
def takeScheme (text : List Char) : List Char × List Char :=
  match text with
  | ':' :: rest => ([], rest)
  | text => Url.takeScheme text

/-- The text before a mark, and the part after it if the mark is there. -/
def cutPart (mark : Char) (text : List Char) : List Char × Option (List Char) :=
  match cut (· = mark) text with
  | (before, []) => (before, none)
  | (before, _ :: after) => (before, some after)

/-- The first control character of a text and its position. -/
def firstControl (text : List Char) : Option TargetFault :=
  let isControl (c : Char) : Bool := c.toNat < 0x20 || c.toNat = 0x7F
  match text.find? isControl, text.findIdx? isControl with
  | some c, some position => some (.control c position)
  | _, _ => none

def parse (text : List Char) : Except TargetFault Target :=
  if lengthLimit < text.length then .error (.tooLong none)
  else
    match firstControl text with
    | some e => .error e
    | none =>
      let (scheme, rest) := takeScheme text
      let (authority, rest) := takeAuthority rest
      let (rest, fragment) := cutPart '#' rest
      let (path, query) := cutPart '?' rest
      ofParts scheme authority path query fragment

/-- Parts that are too long. -/
def partFault (authority path : List Char) (query : Option (List Char)) : Option TargetFault :=
  if lengthLimit < authority.length then some (.tooLong (some "authority"))
  else if lengthLimit < path.length then some (.tooLong (some "path"))
  else if lengthLimit < (query.getD []).length then some (.tooLong (some "query"))
  else none

def withPart (t : Target) (path : List Char) (query : Option (List Char)) :
    Except TargetFault Target :=
  match partFault t.authority path query with
  | some e => .error e
  | none => ofParts t.scheme t.authority path query t.fragment

/-- A target with a path and query in one text. -/
def withPathAndQuery (t : Target) (text : List Char) : Except TargetFault Target :=
  let (path, query) := cutPart '?' text
  t.withPart path query

def withQuery (t : Target) (query : Option (List Char)) : Except TargetFault Target :=
  t.withPart t.path query

/-- A target to which paths can be added: its path, or its query if it has one, ends in a slash. -/
def asBase (t : Target) : Except TargetFault Target :=
  if t.pathAndQuery.getLast? = some '/' then .ok t
  else t.withPathAndQuery (t.pathAndQuery ++ ['/'])

/-- The target of a path under a base.  The path is added to all that stands before the fragment of
the base, which stays. -/
def under (base : Target) (path : List Char) : Except TargetFault Target :=
  match parse path with
  | .error e => .error e
  | .ok relative =>
    base.withPathAndQuery (base.pathAndQuery ++ relative.pathAndQuery.dropWhile (· = '/'))

/-- The name and the password before the host, without escapes. -/
def credentials (t : Target) : List Char × List Char :=
  let (name, password) := cutAt ':' t.user
  (percentDecode name, percentDecode password)

end Target

end RegistryGateway.Url
