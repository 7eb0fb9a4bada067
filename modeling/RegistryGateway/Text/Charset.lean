import RegistryGateway.Json.Decode
import RegistryGateway.Text.Blank

/-! The character sets that a reply may name, and lenient decoding under them: what is not text
becomes the replacement character. -/

namespace RegistryGateway

inductive Charset
  | utf8
  /-- UTF-8 whose byte order mark is not part of the text. -/
  | utf8Marked
  | ascii
  | latin1
  /-- Latin-1 with eight other characters, the euro sign among them. -/
  | latin9
  | windows1252
  /-- 16-bit units in the order that a byte order mark shows, or the one given. -/
  | utf16 (order : Option Bool)
  /-- 32-bit words in the order that a byte order mark shows, or the one given. -/
  | utf32 (order : Option Bool)
  deriving DecidableEq

namespace Charset

/-- The runs of characters that meet a test. -/
def runs (test : Char → Bool) : List Char → List (List Char)
  | [] => []
  | c :: rest =>
    if test c then
      match rest, runs test rest with
      | next :: _, run :: others => if test next then (c :: run) :: others else [c] :: run :: others
      | _, others => [c] :: others
    else runs test rest

/-- A name in lower case with one underscore between its runs of letters, digits and points. -/
def fold (name : List Char) : List Char :=
  joinChars ['_'] (runs (fun c => c.isAlphanum || c = '.') (name.map Char.toLower))

def names : List (Charset × List String) :=
  [(.utf8, ["utf_8", "u8", "utf", "utf8", "utf8_ucs2", "utf8_ucs4", "cp65001"]),
    (.utf8Marked, ["utf_8_sig"]),
    (.ascii, ["ascii", "646", "ansi_x3.4_1968", "ansi_x3_4_1968", "ansi_x3.4_1986", "cp367",
      "csascii", "ibm367", "iso646_us", "iso_646.irv_1991", "iso_ir_6", "us", "us_ascii"]),
    (.latin1, ["latin_1", "8859", "cp819", "csisolatin1", "ibm819", "iso8859", "iso8859_1",
      "iso_8859_1", "iso_8859_1_1987", "iso_ir_100", "l1", "latin", "latin1"]),
    (.latin9, ["iso8859_15", "iso_8859_15", "l9", "latin9"]),
    (.windows1252, ["cp1252", "1252", "windows_1252"]),
    (.utf16 none, ["utf_16", "u16", "utf16"]),
    (.utf16 (some true), ["utf_16_be", "unicodebigunmarked", "utf_16be"]),
    (.utf16 (some false), ["utf_16_le", "unicodelittleunmarked", "utf_16le"]),
    (.utf32 none, ["utf_32", "u32", "utf32"]),
    (.utf32 (some true), ["utf_32_be", "utf_32be"]),
    (.utf32 (some false), ["utf_32_le", "utf_32le"])]

def named? (name : List Char) : Option Charset :=
  (names.find? (·.2.contains (String.ofList (fold name)))).map (·.1)

/-- The pieces of a text between semicolons that stand outside quotes; `escaped` says whether a
backslash stands in front. -/
def unquotedPieces (quoted escaped : Bool) : List Char → List (List Char)
  | [] => [[]]
  | c :: rest =>
    if c = ';' ∧ ¬ quoted then [] :: unquotedPieces false false rest
    else
      let turns := c = '"' && !escaped
      match unquotedPieces (if turns then !quoted else quoted) (c = '\\') rest with
      | [] => [[c]]
      | piece :: pieces => (c :: piece) :: pieces

/-- A value without the quotes or angle brackets around it. -/
def unwrapped (value : List Char) : List Char :=
  match value with
  | '"' :: rest => if rest.getLast? = some '"' then rest.dropLast else value
  | '<' :: rest => if rest.getLast? = some '>' then rest.dropLast else value
  | _ => value

/-- The value of a parameter of a content type. -/
def parameter? (contentType : List Char) (name : List Char) : Option (List Char) :=
  (unquotedPieces false false contentType).findSome? fun piece =>
    let key := piece.takeWhile (· ≠ '=')
    if (trim key).map Char.toLower = name then
      some (unwrapped (trim (piece.drop (key.length + 1))))
    else none

/-- The character set that a content type names, UTF-8 when it names none that is known. -/
def ofContentType (contentType : Option String) : Charset :=
  (contentType.bind fun type => (parameter? type.toList "charset".toList).bind named?).getD .utf8

/-- The code points of the bytes 0x80 to 0x9F in Windows-1252, zero for the five without one. -/
def windowsCodes : List Nat :=
  [0x20AC, 0, 0x201A, 0x192, 0x201E, 0x2026, 0x2020, 0x2021, 0x2C6, 0x2030, 0x160, 0x2039, 0x152, 0,
    0x17D, 0, 0, 0x2018, 0x2019, 0x201C, 0x201D, 0x2022, 0x2013, 0x2014, 0x2DC, 0x2122, 0x161,
    0x203A, 0x153, 0, 0x17E, 0x178]

def windowsChar (b : UInt8) : Char :=
  let n := b.toNat
  if n < 0x80 ∨ 0xA0 ≤ n then charOfCode n
  else
    match windowsCodes[n - 0x80]? with
    | some code => if code = 0 then '\uFFFD' else charOfCode code
    | none => '\uFFFD'

/-- The bytes that Latin-9 reads otherwise than Latin-1. -/
def latin9Codes : List (UInt8 × Nat) :=
  [(0xA4, 0x20AC), (0xA6, 0x160), (0xA8, 0x161), (0xB4, 0x17D), (0xB8, 0x17E), (0xBC, 0x152),
    (0xBD, 0x153), (0xBE, 0x178)]

def latin9Char (b : UInt8) : Char :=
  match latin9Codes.find? (·.1 = b) with
  | some (_, code) => charOfCode code
  | none => charOfCode b.toNat

/-- The order of the units and the bytes after the mark. -/
def afterMark (bigMark littleMark : Bytes) (order : Option Bool) (bytes : Bytes) : Bool × Bytes :=
  match order with
  | some bigEndian => (bigEndian, bytes)
  | none =>
    let width := bigMark.length
    if bytes.take width = bigMark then (true, bytes.drop width)
    else if bytes.take width = littleMark then (false, bytes.drop width)
    else (false, bytes)

/-- The characters of 16-bit units, of which some bytes may be left over.  A high surrogate in
front of the bytes left over is one fault with them. -/
def ofUnitsLenient (left : Bool) : List Nat → List Char
  | [] => if left then ['\uFFFD'] else []
  | [unit] => if isHighSurrogate unit then ['\uFFFD'] else
    charOfCode unit :: (if left then ['\uFFFD'] else [])
  | high :: low :: rest =>
    if isHighSurrogate high && isLowSurrogate low then
      joinSurrogates high low :: ofUnitsLenient left rest
    else charOfCode high :: ofUnitsLenient left (low :: rest)

/-- The characters of 32-bit words; bytes left over are one fault. -/
def ofWordsLenient (bigEndian : Bool) : Bytes → List Char
  | [] => []
  | a :: b :: c :: d :: rest =>
    charOfCode (Json.wordValue bigEndian [a, b, c, d]) :: ofWordsLenient bigEndian rest
  | _ => ['\uFFFD']

def decode (charset : Charset) (bytes : Bytes) : List Char :=
  match charset with
  | .utf8 => Utf8.decodeLenient bytes
  | .utf8Marked =>
    Utf8.decodeLenient (if bytes.take 3 = [0xEF, 0xBB, 0xBF] then bytes.drop 3 else bytes)
  | .ascii => bytes.map fun b => if b.toNat < 0x80 then charOfCode b.toNat else '\uFFFD'
  | .latin1 => bytes.map fun b => charOfCode b.toNat
  | .latin9 => bytes.map latin9Char
  | .windows1252 => bytes.map windowsChar
  | .utf16 order =>
    let (bigEndian, bytes) := afterMark [0xFE, 0xFF] [0xFF, 0xFE] order bytes
    let (units, left) := Json.words16 bigEndian bytes
    ofUnitsLenient (!left.isEmpty) units
  | .utf32 order =>
    let (bigEndian, bytes) :=
      afterMark [0, 0, 0xFE, 0xFF] [0xFF, 0xFE, 0, 0] order bytes
    ofWordsLenient bigEndian bytes

end Charset

end RegistryGateway
