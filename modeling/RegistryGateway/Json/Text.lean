import RegistryGateway.Json.Value
import RegistryGateway.Text.Digits
import RegistryGateway.Double.Shortest

/-! The written forms of a JSON value.  `Json.wire` keeps to printable ASCII with a space after each
separator; `Json.compact` has no spaces and leaves other characters as they are. -/

namespace RegistryGateway.Json

/-- How values are written: the separators, and whether characters outside printable ASCII are
escaped. -/
structure Style where
  itemSeparator : List Char
  keySeparator : List Char
  asciiOnly : Bool

def wireStyle : Style := ⟨[',', ' '], [':', ' '], true⟩

def compactStyle : Style := ⟨[','], [':'], false⟩

/-- The escape `\uXXXX` of a 16-bit unit. -/
def unitEscape (unit : Nat) : List Char := '\\' :: 'u' :: hexPadded 4 unit

/-- The escape of a character by code point: one unit, or the two surrogates of an astral
character. -/
def codeEscape (c : Char) : List Char :=
  let n := c.toNat
  if n < 0x10000 then unitEscape n
  else
    unitEscape (0xD800 + (n - 0x10000) / 0x400) ++ unitEscape (0xDC00 + (n - 0x10000) % 0x400)

def escapeChar (asciiOnly : Bool) (c : Char) : List Char :=
  if c = '"' then ['\\', '"']
  else if c = '\\' then ['\\', '\\']
  else if c = '\n' then ['\\', 'n']
  else if c = '\r' then ['\\', 'r']
  else if c = '\t' then ['\\', 't']
  else if c = '\x08' then ['\\', 'b']
  else if c = '\x0c' then ['\\', 'f']
  else if c.toNat < 0x20 then codeEscape c
  else if asciiOnly && 0x7E < c.toNat then codeEscape c
  else [c]

def quoted (asciiOnly : Bool) (s : String) : List Char :=
  '"' :: (s.toList.flatMap (escapeChar asciiOnly) ++ ['"'])

/-- How JSON lays out doubles: as in the plain layout, with words for the values without digits. -/
def numberLayout : Double.Layout :=
  { Double.plain with nanText := "NaN", infinityText := "Infinity" }

mutual

/-- The characters of a value in a style. -/
def chars (style : Style) : Json → List Char
  | .null => ['n', 'u', 'l', 'l']
  | .bool true => ['t', 'r', 'u', 'e']
  | .bool false => ['f', 'a', 'l', 's', 'e']
  | .int i => (toString i).toList
  | .float d => (d.textIn numberLayout).toList
  | .str s => quoted style.asciiOnly s
  | .arr items => '[' :: (itemChars style items ++ [']'])
  | .obj members => '{' :: (memberChars style members ++ ['}'])

def itemChars (style : Style) : List Json → List Char
  | [] => []
  | [v] => chars style v
  | v :: rest => chars style v ++ style.itemSeparator ++ itemChars style rest

def memberChars (style : Style) : List (String × Json) → List Char
  | [] => []
  | [(k, v)] => quoted style.asciiOnly k ++ style.keySeparator ++ chars style v
  | (k, v) :: rest =>
    quoted style.asciiOnly k ++ style.keySeparator ++ chars style v ++ style.itemSeparator ++
      memberChars style rest

end

/-- The printable-ASCII text of a value. -/
def wire (v : Json) : String := String.ofList (chars wireStyle v)

/-- The text of a value without spaces or needless escapes. -/
def compact (v : Json) : String := String.ofList (chars compactStyle v)

mutual

/-- Every double inside the value is finite. -/
def allFinite : Json → Bool
  | .float d => d.isFinite
  | .arr items => allFiniteItems items
  | .obj members => allFiniteMembers members
  | _ => true

def allFiniteItems : List Json → Bool
  | [] => true
  | v :: rest => allFinite v && allFiniteItems rest

def allFiniteMembers : List (String × Json) → Bool
  | [] => true
  | (_, v) :: rest => allFinite v && allFiniteMembers rest

end

end RegistryGateway.Json
