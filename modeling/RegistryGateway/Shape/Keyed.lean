import RegistryGateway.Shape.Check

/-! Objects whose keys need not be text.  A surrogate that stands alone may be escaped in JSON, and
a key that holds one is no text. -/

namespace RegistryGateway

/-- The key of a member: text, or code points that are not all characters. -/
inductive Key
  | text (key : String)
  | broken (codes : List Nat)
  deriving DecidableEq

/-- An object under any keys. -/
abbrev Keyed := List (Key × Json)

namespace Keyed

def isBroken (m : Key × Json) : Bool :=
  match m.1 with
  | .text _ => false
  | .broken _ => true

/-- The object whose keys are all text. -/
def ofMembers (members : List (String × Json)) : Keyed :=
  members.map fun (key, v) => (.text key, v)

/-- The members whose keys are text. -/
def members (object : Keyed) : List (String × Json) :=
  object.filterMap fun
    | (.text key, v) => some (key, v)
    | (.broken _, _) => none

end Keyed

/-- Whether a record looks at the keys of other members than its fields. -/
def Shape.looksAtKeys : Shape → Bool
  | .record _ .ignore _ => false
  | _ => true

/-- Reads an object under any keys as a record.  One that looks at the keys gives up at the first
that is no text. -/
def Shape.checkKeyed [Platform] (shape : Shape) (object : Keyed) : Shape.Reading :=
  if shape.looksAtKeys && object.any Keyed.isBroken then fail .brokenText
  else shape.check (.obj object.members)

end RegistryGateway
