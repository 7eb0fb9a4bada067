import RegistryGateway.Contract.Record

/-! Checking a request body against an agent's contract.  Structural validation looks at the keys
only; strict validation goes on to read the body as the agent's typed request.  Each reports the
first problem it finds. -/

namespace RegistryGateway

/-- The first problem of a request body. -/
inductive Rejection
  | notObject
  | missing (field : String)
  | unknown (field : String)
  | invalid (misfit : Misfit)
  deriving DecidableEq

/-- A rejection as it is reported; a misfit of the body itself is placed at "body". -/
def Rejection.message : Rejection → String
  | .notObject => "Request body must be a JSON object"
  | .missing field => s!"Missing required field: {field}"
  | .unknown field => s!"Unknown field: {field}"
  | .invalid misfit =>
    let location := if misfit.location = "" then "body" else misfit.location
    s!"Invalid field: {location} ({misfit.fault.message})"

structure UnknownContract where
  name : String
  deriving DecidableEq

namespace Contract

def requestSchema (agent : String) : Except UnknownContract Schema :=
  match table.get? agent with
  | some c => .ok c.request
  | none => .error ⟨agent⟩

/-- The first problem of an object's keys: a required one that is missing, in the order of the
schema, else one that is not described, in the order of the body. -/
def keyRejection (schema : Schema) (members : List (String × Json)) : Option Rejection :=
  match schema.requiredNames.find? fun name => !Assoc.contains members name with
  | some name => some (.missing name)
  | none =>
    (members.find? fun m => !schema.propertyNames.contains m.1).map fun m => .unknown m.1

/-- The structural problem of a body, if it has one. -/
def structuralRejection (agent : String) (body : Json) :
    Except UnknownContract (Option Rejection) :=
  match body with
  | .obj members => (requestSchema agent).map (keyRejection · members)
  | _ => .ok (some .notObject)

variable [Platform]

/-- The problem of a body read as the agent's typed request, if it has one. -/
def typeRejection (agent : String) (body : Json) : Option Rejection :=
  match requestShapes.get? agent with
  | none => none
  | some shape =>
    match shape.check body with
    | .ok _ => none
    | .error misfits => misfits.head?.map .invalid

/-- The structural problem of a body, or else the problem of its types. -/
def strictRejection (agent : String) (body : Json) : Except UnknownContract (Option Rejection) :=
  match structuralRejection agent body with
  | .error e => .error e
  | .ok (some r) => .ok (some r)
  | .ok none => .ok (typeRejection agent body)

/-- The problem of a body under strict or structural validation. -/
def rejection (strict : Bool) (agent : String) (body : Json) :
    Except UnknownContract (Option Rejection) :=
  if strict then strictRejection agent body else structuralRejection agent body

end Contract

end RegistryGateway
