import RegistryGateway.Json.Value

/-! The shapes that records and their fields may have, and the ways in which a value fails a
shape. -/

namespace RegistryGateway

inductive Bound
  | atMost (limit : Int)
  | atLeast (limit : Int)
  | above (limit : Int)
  deriving DecidableEq

/-- What a record does with members that are not among its fields. -/
inductive Extras
  | ignore
  | keep
  | refuse
  deriving DecidableEq

/-- A shape that a JSON value may be read as. -/
inductive Shape
  | any
  | text
  | integer (bounds : List Bound)
  | real (bounds : List Bound)
  | flag
  /-- An integer or a double, whichever the value is. -/
  | number
  /-- One of some words; `named` tells an enumeration of the program from a list of literals. -/
  | choice (named : Bool) (options : List String)
  | list (item : Shape)
  | table (entry : Shape)
  | optional (inner : Shape)
  /-- Fields in order, each with its shape and its default; one without a default is required. -/
  | record (name : String) (extras : Extras) (fields : List (String × Shape × Option Json))

/-- Why a value is not of a shape. -/
inductive Fault
  | missing
  | notText
  /-- A text with code points that are no characters. -/
  | brokenText
  | notInteger
  | integerFraction
  | integerText
  | integerSize
  | notFinite
  | notReal
  | realText
  | outOfBound (bound : Bound)
  | notFlag
  | flagText
  | notList
  | notTable
  | notRecord (name : String)
  | notChoice (named : Bool) (options : List String)
  | unexpected
  deriving DecidableEq

/-- A fault and the path of members and positions that leads to it. -/
structure Misfit where
  path : List String
  fault : Fault
  deriving DecidableEq

namespace Misfit

/-- The fault found inside the member or position `step`. -/
def under (step : String) (m : Misfit) : Misfit := { m with path := step :: m.path }

/-- The path with a point between its steps. -/
def location (m : Misfit) : String := ".".intercalate m.path

end Misfit

/-- Words in quotes with commas between them and "or" before the last. -/
def alternatives : List String → String
  | [] => ""
  | [word] => s!"'{word}'"
  | [first, last] => s!"'{first}' or '{last}'"
  | word :: rest => s!"'{word}', {alternatives rest}"

namespace Fault

def code : Fault → String
  | .missing => "missing"
  | .notText => "string_type"
  | .brokenText => "string_unicode"
  | .notInteger => "int_type"
  | .integerFraction => "int_from_float"
  | .integerText => "int_parsing"
  | .integerSize => "int_parsing_size"
  | .notFinite => "finite_number"
  | .notReal => "float_type"
  | .realText => "float_parsing"
  | .outOfBound (.atMost _) => "less_than_equal"
  | .outOfBound (.atLeast _) => "greater_than_equal"
  | .outOfBound (.above _) => "greater_than"
  | .notFlag => "bool_type"
  | .flagText => "bool_parsing"
  | .notList => "list_type"
  | .notTable => "dict_type"
  | .notRecord _ => "model_type"
  | .notChoice true _ => "enum"
  | .notChoice false _ => "literal_error"
  | .unexpected => "extra_forbidden"

def message : Fault → String
  | .missing => "Field required"
  | .notText => "Input should be a valid string"
  | .brokenText =>
    "Input should be a valid string, unable to parse raw data as a unicode string"
  | .notInteger => "Input should be a valid integer"
  | .integerFraction => "Input should be a valid integer, got a number with a fractional part"
  | .integerText => "Input should be a valid integer, unable to parse string as an integer"
  | .integerSize => "Unable to parse input string as an integer, exceeded maximum size"
  | .notFinite => "Input should be a finite number"
  | .notReal => "Input should be a valid number"
  | .realText => "Input should be a valid number, unable to parse string as a number"
  | .outOfBound (.atMost n) => s!"Input should be less than or equal to {n}"
  | .outOfBound (.atLeast n) => s!"Input should be greater than or equal to {n}"
  | .outOfBound (.above n) => s!"Input should be greater than {n}"
  | .notFlag => "Input should be a valid boolean"
  | .flagText => "Input should be a valid boolean, unable to interpret input"
  | .notList => "Input should be a valid list"
  | .notTable => "Input should be a valid dictionary"
  | .notRecord name => s!"Input should be a valid dictionary or instance of {name}"
  | .notChoice _ options => s!"Input should be {alternatives options}"
  | .unexpected => "Extra inputs are not permitted"

end Fault

end RegistryGateway
