import RegistryGateway.Assoc
import RegistryGateway.Double.Basic

/-! The values of JSON.  Integers and doubles are different kinds, and the members of an object are
in their order of appearance. -/

namespace RegistryGateway

/-- A JSON value. -/
inductive Json
  | null
  | bool (value : Bool)
  | int (value : Int)
  | float (value : Double)
  | str (value : String)
  | arr (items : List Json)
  | obj (members : List (String × Json))
  deriving Inhabited

namespace Json

/-- The member of an object under a key; `none` for every other kind of value. -/
def member? : Json → String → Option Json
  | .obj members, key => Assoc.get? members key
  | _, _ => none

def isNull : Json → Bool
  | .null => true
  | _ => false

/-- A string, or null for none. -/
def ofOption : Option String → Json
  | none => .null
  | some s => .str s

def strings (items : List String) : Json := .arr (items.map .str)

mutual

/-- The value with every double that is not finite replaced by null. -/
def finite : Json → Json
  | .float d => if d.isFinite then .float d else .null
  | .arr items => .arr (finiteItems items)
  | .obj members => .obj (finiteMembers members)
  | other => other

def finiteItems : List Json → List Json
  | [] => []
  | v :: rest => finite v :: finiteItems rest

def finiteMembers : List (String × Json) → List (String × Json)
  | [] => []
  | (k, v) :: rest => (k, finite v) :: finiteMembers rest

end

end Json

end RegistryGateway
