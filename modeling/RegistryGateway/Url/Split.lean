import RegistryGateway.Url.Address
import RegistryGateway.Text.Quoted

/-! Splitting a URL into scheme, authority, path, query and fragment, and the ways in which its
authority can be wrong. -/

namespace RegistryGateway

/-- What is wrong with the authority of a URL. -/
inductive UrlFault
  | unbalancedBrackets
  | futureAddress
  | notAddress (host : List Char)
  | ipv4InBrackets
  /-- Some character stands for others that have a meaning in URLs. -/
  | compatibility (authority : List Char)
  deriving DecidableEq

def UrlFault.message : UrlFault → String
  | .unbalancedBrackets => "Invalid IPv6 URL"
  | .futureAddress => "IPvFuture address is invalid"
  | .notAddress host =>
    quotedText (String.ofList host) ++ " does not appear to be an IPv4 or IPv6 address"
  | .ipv4InBrackets => "An IPv4 address cannot be in brackets"
  | .compatibility authority =>
    "netloc '" ++ String.ofList authority ++
      "' contains invalid characters under NFKC normalization"

namespace Url

/-- The parts of a URL, without the marks between them. -/
structure Parts where
  scheme : List Char
  authority : List Char
  path : List Char
  query : List Char
  fragment : List Char
  deriving DecidableEq

def isControlOrSpace (c : Char) : Bool := c.toNat ≤ 0x20

/-- The characters that are dropped wherever they stand. -/
def isDropped (c : Char) : Bool := c = '\t' || c = '\r' || c = '\n'

def isAsciiLetter (c : Char) : Bool := ('a' ≤ c && c ≤ 'z') || ('A' ≤ c && c ≤ 'Z')

def isSchemeChar (c : Char) : Bool :=
  isAsciiLetter c || isDecimalDigit c || c = '+' || c = '-' || c = '.'

/-- The text before the first character that meets a test, and the text from that character on. -/
def cut (test : Char → Bool) (text : List Char) : List Char × List Char :=
  (text.takeWhile (!test ·), text.dropWhile (!test ·))

/-- The text before the first `mark` and the text after it, which is empty when there is none. -/
def cutAt (mark : Char) (text : List Char) : List Char × List Char :=
  let (before, rest) := cut (· = mark) text
  (before, rest.drop 1)

/-- The text without what is dropped: controls and spaces in front, and tabs and line breaks. -/
def clean (text : List Char) : List Char :=
  (text.dropWhile isControlOrSpace).filter (!isDropped ·)

/-- The scheme, if the text starts with one, and the text after it. -/
def takeScheme (text : List Char) : List Char × List Char :=
  let (scheme, rest) := cut (· = ':') text
  match scheme, rest with
  | first :: _, ':' :: after =>
    if isAsciiLetter first && scheme.all isSchemeChar then (scheme, after) else ([], text)
  | _, _ => ([], text)

/-- The authority, if the text starts with two slashes, and the text after it. -/
def takeAuthority (text : List Char) : List Char × List Char :=
  match text with
  | '/' :: '/' :: rest => cut (fun c => c = '/' || c = '?' || c = '#') rest
  | _ => ([], text)

/-- A later kind of address: `v`, hexadecimal digits, a point and more. -/
def isFutureAddress (host : List Char) : Bool :=
  match host with
  | 'v' :: rest =>
    let (digits, after) := cut (!isHexDigit ·) rest
    match after with
    | '.' :: _ :: _ => !digits.isEmpty
    | _ => false
  | _ => false

/-- What is wrong with a host in brackets. -/
def hostFault (host : List Char) : Option UrlFault :=
  if host.head? = some 'v' then if isFutureAddress host then none else some .futureAddress
  else if isIpv4 host then some .ipv4InBrackets
  else if isIpv6 host then none
  else some (.notAddress host)

/-- What is wrong with the brackets of an authority. -/
def bracketFault (authority : List Char) : Option UrlFault :=
  match authority.contains '[', authority.contains ']' with
  | false, false => none
  | true, true => hostFault (cutAt ']' (cutAt '[' authority).2).1
  | _, _ => some .unbalancedBrackets

/-- The characters that stand for a text with a slash, a question mark, a hash, an at sign or a
colon. -/
def compatibilityCodes : List Nat :=
  [0x2047, 0x2048, 0x2049, 0x2100, 0x2101, 0x2105, 0x2106, 0x2A74, 0xFE13, 0xFE16, 0xFE55, 0xFE56,
    0xFE5F, 0xFE6B, 0xFF03, 0xFF0F, 0xFF1A, 0xFF1F, 0xFF20]

def compatibilityFault (authority : List Char) : Option UrlFault :=
  if authority.any fun c => compatibilityCodes.contains c.toNat then
    some (.compatibility authority)
  else none

/-- The parts of a URL.  Brackets are looked at before characters that stand for others. -/
def split (text : List Char) : Except UrlFault Parts :=
  let (scheme, rest) := takeScheme (clean text)
  let (authority, rest) := takeAuthority rest
  match bracketFault authority with
  | some fault => .error fault
  | none =>
    let (rest, fragment) := cutAt '#' rest
    let (path, query) := cutAt '?' rest
    match compatibilityFault authority with
    | some fault => .error fault
    | none => .ok ⟨scheme, authority, path, query, fragment⟩

end Url

end RegistryGateway
