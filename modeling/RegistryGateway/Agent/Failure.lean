import RegistryGateway.Json.Display
import RegistryGateway.Platform
import RegistryGateway.Shape.Basic

/-! The ways in which an agent, or the call of one, fails. -/

namespace RegistryGateway

/-- How a body is looked into. -/
inductive Access
  | optional
  | required
  deriving DecidableEq

inductive Failure
  | unknownAgent (name : String)
  | missingKey (key : Json)
  | notObject (access : Access) (body : Json)
  /-- The result does not have the shape of a result. -/
  | misfit (record : String) (misfits : List Misfit)
  | endlessDuration
  | undefinedDuration
  /-- An error of the platform, or of an agent given from outside. -/
  | raised (e : Raised)

def Json.typeName : Json → String
  | .null => "NoneType"
  | .bool _ => "bool"
  | .int _ => "int"
  | .float _ => "float"
  | .str _ => "str"
  | .arr _ => "list"
  | .obj _ => "dict"

namespace Failure

/-- "1 error" or "2 errors" in a record. -/
def countMessage (record : String) (misfits : List Misfit) : String :=
  let noun := if misfits.length = 1 then "error" else "errors"
  s!"{misfits.length} validation {noun} for {record}"

def message : Failure → String
  | .unknownAgent name => s!"Unknown agent: {name}"
  | .missingKey key => key.display
  | .notObject .optional body => s!"'{body.typeName}' object has no attribute 'get'"
  | .notObject .required (.arr _) => "list indices must be integers or slices, not str"
  | .notObject .required (.str _) => "string indices must be integers, not 'str'"
  | .notObject .required body => s!"'{body.typeName}' object is not subscriptable"
  | .misfit record misfits => countMessage record misfits
  | .endlessDuration => "cannot convert float infinity to integer"
  | .undefinedDuration => "cannot convert float NaN to integer"
  | .raised e => e.message

end Failure

end RegistryGateway
