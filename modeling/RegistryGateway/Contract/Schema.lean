import RegistryGateway.Json.Value

/-! Contracts as JSON Schema.  A schema is the list of its keywords in the order in which they are
published, and each keyword is a constraint on values of one type. -/

namespace RegistryGateway

inductive SchemaType
  | string
  | number
  | array
  | object
  deriving DecidableEq

inductive Keyword
  | type (type : SchemaType)
  | required (names : List String)
  | properties (schemas : List (String × List Keyword))
  | items (schema : List Keyword)
  | enum (options : List String)
  | minimum (limit : Int)
  | maximum (limit : Int)
  | format (name : String)
  | additionalProperties (allowed : Bool)

/-- A schema: its constraints in order. -/
abbrev Schema := List Keyword

def SchemaType.name : SchemaType → String
  | .string => "string"
  | .number => "number"
  | .array => "array"
  | .object => "object"

namespace Schema

/-- The member that a keyword is published as. -/
def keywordName : Keyword → String
  | .type _ => "type"
  | .required _ => "required"
  | .properties _ => "properties"
  | .items _ => "items"
  | .enum _ => "enum"
  | .minimum _ => "minimum"
  | .maximum _ => "maximum"
  | .format _ => "format"
  | .additionalProperties _ => "additionalProperties"

mutual

def toJson (schema : List Keyword) : Json := .obj (keywordMembers schema)

def keywordMembers : List Keyword → List (String × Json)
  | [] => []
  | k :: rest => (keywordName k, keywordJson k) :: keywordMembers rest

def keywordJson : Keyword → Json
  | .type t => .str t.name
  | .required names => .strings names
  | .properties schemas => .obj (propertyMembers schemas)
  | .items schema => .obj (keywordMembers schema)
  | .enum options => .strings options
  | .minimum limit => .int limit
  | .maximum limit => .int limit
  | .format name => .str name
  | .additionalProperties allowed => .bool allowed

def propertyMembers : List (String × List Keyword) → List (String × Json)
  | [] => []
  | (name, schema) :: rest => (name, .obj (keywordMembers schema)) :: propertyMembers rest

end

/-- The names that must be present, in order. -/
def requiredNames (schema : Schema) : List String :=
  (schema.findSome? fun | .required names => some names | _ => none).getD []

def propertyNames (schema : Schema) : List String :=
  (schema.findSome? fun | .properties schemas => some (schemas.map (·.1)) | _ => none).getD []

end Schema

end RegistryGateway
