import RegistryGateway.Json.Value
import RegistryGateway.Text.Utf8

/-! What the gateway and its client rest on and do not decide themselves: the library that reads and
writes typed records, the reader of JSON content and the codecs of replies, the framework that
writes the URL of a request, and the generator of identifiers.  A `Platform` is any choice of these;
it is an ambient parameter of all that depends on one. -/

namespace RegistryGateway

/-- An error raised by the platform: its kind and its text. -/
structure Raised where
  kind : String
  message : String
  deriving DecidableEq

/-- Why a text is not read as an integer. -/
inductive NumeralFault
  | malformed
  | oversized
  deriving DecidableEq

class Platform where
  /-- The integer that a text is read as. -/
  integerOfText : String → Except NumeralFault Int
  /-- The double that a text is read as. -/
  realOfText : String → Option Double
  /-- Why a typed record cannot write out a value for which it gives no type. -/
  writeFault? : Json → Option Raised
  /-- Why JSON content is nested too deep to be read. -/
  readFault? : Bytes → Option Raised
  /-- The body of a reply with some content type as text. -/
  replyText : Option String → Bytes → Except Raised String
  /-- The host in the URL of a request, given its host header. -/
  urlHost : Option String → List Char
  /-- A character of a path in the URL of a request. -/
  urlChar : Char → List Char
  /-- The identifier that is generated under a serial number. -/
  identifier : Nat → String
  urlChar_slash : urlChar '/' = ['/']
  /-- A character stands as it is or is percent-encoded. -/
  urlChar_cases : ∀ c, urlChar c = [c] ∨
    ∃ x y, urlChar c = ['%', x, y] ∧ isHexDigit x = true ∧ isHexDigit y = true
  /-- No identifier is generated twice. -/
  identifier_injective : Function.Injective identifier
  identifier_ne_empty : ∀ serial, identifier serial ≠ ""
  identifier_chars : ∀ serial, ∀ c ∈ (identifier serial).toList, isHexDigit c = true ∨ c = '-'

end RegistryGateway
