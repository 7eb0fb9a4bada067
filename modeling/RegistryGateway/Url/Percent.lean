import RegistryGateway.Text.Utf8

/-! Percent-encoding.  A part of a URL keeps some characters; any other stands as its UTF-8 bytes,
each a percent sign and two hexadecimal digits. -/

namespace RegistryGateway.Url

def percentByte (b : UInt8) : List Char :=
  ['%', upperHexChar (b.toNat / 16), upperHexChar (b.toNat % 16)]

def percentChar (c : Char) : List Char := (Utf8.encodeChar c).flatMap percentByte

/-- A text in which the characters that are not kept are escaped. -/
def percentEncode (keep : Char → Bool) (text : List Char) : List Char :=
  text.flatMap fun c => if keep c then [c] else percentChar c

/-- The bytes that a text stands for: an escape is its byte, any other character its UTF-8. -/
def percentBytes : List Char → Bytes
  | [] => []
  | '%' :: high :: low :: rest =>
    match hexDigit? high, hexDigit? low with
    | some h, some l => UInt8.ofNat (h * 16 + l) :: percentBytes rest
    | _, _ => Utf8.encodeChar '%' ++ percentBytes (high :: low :: rest)
  | c :: rest => Utf8.encodeChar c ++ percentBytes rest

/-- The text behind the escapes; bytes that are not UTF-8 become replacement characters. -/
def percentDecode (text : List Char) : List Char := Utf8.decodeLenient (percentBytes text)

/-- Letters, digits and four marks, which no part of a URL escapes. -/
def isUnreserved (c : Char) : Bool :=
  ('a' ≤ c && c ≤ 'z') || ('A' ≤ c && c ≤ 'Z') || isDecimalDigit c ||
    "-._~".toList.contains c

def isPrintableAscii (c : Char) : Bool := ' ' ≤ c && c ≤ '~'

def keptInQuery (c : Char) : Bool := isPrintableAscii c && !" \"#<>".toList.contains c

def keptInPath (c : Char) : Bool := keptInQuery c && !"?`\x7b\x7d".toList.contains c

/-- What the name and the password before a host keep. -/
def keptInUser (c : Char) : Bool := keptInPath c && !"/;=@[\\]^|".toList.contains c

def keptInFragment (c : Char) : Bool := isPrintableAscii c && !" \"<>`".toList.contains c

def keptInHost (c : Char) : Bool :=
  isUnreserved c || "!$&'()*+,;=\"`\x7b\x7d%|\\".toList.contains c

end RegistryGateway.Url
