import RegistryGateway.Json.Value
import RegistryGateway.Text.Quoted
import RegistryGateway.Double.Shortest

/-! Values as they appear inside messages: quoted strings, words for the constants, and lists and
objects in brackets. -/

namespace RegistryGateway.Json

mutual

def display : Json → String
  | .null => "None"
  | .bool true => "True"
  | .bool false => "False"
  | .int i => toString i
  | .float d => d.text
  | .str s => quotedText s
  | .arr items => "[" ++ displayItems items ++ "]"
  | .obj members => "\x7b" ++ displayMembers members ++ "\x7d"

def displayItems : List Json → String
  | [] => ""
  | [v] => display v
  | v :: rest => display v ++ ", " ++ displayItems rest

def displayMembers : List (String × Json) → String
  | [] => ""
  | [(k, v)] => quotedText k ++ ": " ++ display v
  | (k, v) :: rest => quotedText k ++ ": " ++ display v ++ ", " ++ displayMembers rest

end

end RegistryGateway.Json
