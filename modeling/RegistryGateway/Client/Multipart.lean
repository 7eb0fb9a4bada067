import RegistryGateway.Text.Base64
import RegistryGateway.Text.Blank
import RegistryGateway.Url.Address

/-! Multipart form data: parts with a name each, between lines that hold a boundary. -/

namespace RegistryGateway.Client.Multipart

/-- A part of a form.  A part that is a file may have a file name and the type of its content. -/
structure Part where
  name : String
  filename : Option String
  contentType : Option String
  content : Bytes

def Part.text (name value : String) : Part := ⟨name, none, none, Utf8.encode value.toList⟩

def escapeChar (c : Char) : List Char :=
  if c = '"' then ['%', '2', '2']
  else if c = '\\' then ['\\', '\\']
  else if c.toNat < 0x20 ∧ c.toNat ≠ 0x1B then
    ['%', upperHexChar (c.toNat / 16), upperHexChar (c.toNat % 16)]
  else [c]

/-- A parameter `name="value"`. -/
def parameter (name : List Char) (value : String) : List Char :=
  name ++ ['=', '"'] ++ value.toList.flatMap escapeChar ++ ['"']

def lineEnd : List Char := ['\r', '\n']

/-- The lines in front of the content of a part, with the empty one that ends them.  An empty file
name is left out. -/
def head (p : Part) : List Char :=
  let filename := match p.filename with
    | some name => if name = "" then [] else "; ".toList ++ parameter "filename".toList name
    | none => []
  let contentType := match p.contentType with
    | some type => lineEnd ++ "Content-Type: ".toList ++ type.toList
    | none => []
  "Content-Disposition: form-data; ".toList ++ parameter "name".toList p.name ++ filename ++
    contentType ++ lineEnd ++ lineEnd

/-- A part behind a line with the boundary. -/
def encodePart (boundary : List Char) (p : Part) : Bytes :=
  Utf8.encode (['-', '-'] ++ boundary ++ lineEnd ++ head p) ++ p.content ++ Utf8.encode lineEnd

def encode (boundary : List Char) (parts : List Part) : Bytes :=
  parts.flatMap (encodePart boundary) ++ Utf8.encode (['-', '-'] ++ boundary ++ "--\r\n".toList)

def contentType (boundary : List Char) : String :=
  "multipart/form-data; boundary=" ++ String.ofList boundary

/-- A text without a character at its ends. -/
def stripped (test : Char → Bool) (text : List Char) : List Char :=
  ((text.dropWhile test).reverse.dropWhile test).reverse

/-- The boundary that a content type of a form sets. -/
def boundaryOf? (contentType : String) : Option (List Char) :=
  let marker := "boundary=".toList
  if contentType.startsWith "multipart/form-data" then
    ((Url.splitOn ';' contentType.toList).map trim).findSome? fun setting =>
      if (setting.take marker.length).map Char.toLower = marker then
        some (stripped (· = '"') (setting.drop marker.length))
      else none
  else none

end RegistryGateway.Client.Multipart
