import RegistryGateway.Client.Record
import RegistryGateway.Url.Form

/-! The search filters of the model list and the query that carries them. -/

namespace RegistryGateway.Client

def membersOf : Json → List (String × Json)
  | .obj members => members
  | _ => []

/-- The text under a key of a record; `none` for any other value. -/
def textAt? (record : Json) (key : String) : Option String :=
  match record.member? key with
  | some (.str s) => some s
  | _ => none

/-- The text under a key of a record, empty when there is none. -/
def textAt (record : Json) (key : String) : String := (textAt? record key).getD ""

structure SearchFilters where
  query : Option String
  provider : Option String
  tags : Option (List String)
  limit : Option Int
  offset : Option Int
  deriving DecidableEq

namespace SearchFilters

def integerAt? (record : Json) (key : String) : Option Int :=
  match record.member? key with
  | some (.int n) => some n
  | _ => none

/-- The texts of a list under a key of a record. -/
def textsAt? (record : Json) (key : String) : Option (List String) :=
  match record.member? key with
  | some (.arr items) => some (items.filterMap fun
    | .str s => some s
    | _ => none)
  | _ => none

/-- The filters of a record in normal form. -/
def ofRecord (record : Json) : SearchFilters where
  query := textAt? record "query"
  provider := textAt? record "provider"
  tags := textsAt? record "tags"
  limit := integerAt? record "limit"
  offset := integerAt? record "offset"

def ofJson [Platform] (v : Json) : Except (List Misfit) SearchFilters :=
  (searchFilters.normalize v).map ofRecord

/-- A field that is set, under its name. -/
def param {α : Type} (name : String) (write : α → Json) : Option α → List (String × Json)
  | some a => [(name, write a)]
  | none => []

def params (f : SearchFilters) : List (String × Json) :=
  param "query" .str f.query ++ param "provider" .str f.provider ++ param "tags" .strings f.tags ++
    param "limit" .int f.limit ++ param "offset" .int f.offset

/-- The named values of the query: one for each field that is set, and one for each tag. -/
def pairs (f : SearchFilters) : List (String × String) :=
  let one (name : String) (value : Option String) : List (String × String) :=
    (value.map fun v => (name, v)).toList
  one "query" f.query ++ one "provider" f.provider ++
    (f.tags.getD []).map (fun tag => ("tags", tag)) ++
    one "limit" (f.limit.map toString) ++ one "offset" (f.offset.map toString)

/-- The query, which is absent when no field is set. -/
def queryText (f : SearchFilters) : Option (List Char) :=
  if f.params.isEmpty then none
  else some (Url.formEncode (f.pairs.map fun (name, value) => (name.toList, value.toList)))

end SearchFilters

end RegistryGateway.Client
