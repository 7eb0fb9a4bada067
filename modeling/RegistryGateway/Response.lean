import RegistryGateway.Shape.Check
import RegistryGateway.Json.Text

/-! Responses before they are put on a transport. -/

namespace RegistryGateway

/-- A response: a status, headers in order, and the members of a JSON body, if it has one. -/
structure OutboundResponse where
  status : Int
  headers : Assoc String
  body : Option (List (String × Json))

namespace OutboundResponse

def empty (status : Int) (headers : Assoc String) : OutboundResponse := ⟨status, headers, none⟩

/-- A response with a JSON body, of the content type that says so. -/
def json (status : Int) (headers : Assoc String) (body : List (String × Json)) :
    OutboundResponse :=
  ⟨status, headers.put "Content-Type" "application/json", some body⟩

def wire (r : OutboundResponse) : String :=
  match r.body with
  | none => ""
  | some members => (Json.obj members).wire

/-- The shape of a response given by untyped parts. -/
def shape : Shape :=
  .record "OutboundResponse" .ignore
    [("status_code", .integer [], none), ("headers", .table .text, some (.obj [])),
      ("body", .optional (.table .any), some .null)]

/-- The response of untyped parts, or what is wrong with them. -/
def ofParts [Platform] (status : Json) (headers : List (String × Json)) (body : Json) :
    Except (List Misfit) OutboundResponse :=
  match shape.normalize (.obj [("status_code", status), ("headers", .obj headers), ("body", body)])
  with
  | .error misfits => .error misfits
  | .ok record =>
    let status := match record.member? "status_code" with
      | some (.int n) => n
      | _ => 0
    let headers := match record.member? "headers" with
      | some (.obj members) => members.filterMap fun (k, v) => match v with
        | .str s => some (k, s)
        | _ => none
      | _ => []
    let body := match record.member? "body" with
      | some (.obj members) => some members
      | _ => none
    .ok ⟨status, headers, body⟩

/-- The response of untyped parts with a JSON body. -/
def jsonOfParts [Platform] (status : Json) (headers : List (String × Json)) (body : Json) :
    Except (List Misfit) OutboundResponse :=
  ofParts status (Assoc.put headers "Content-Type" (.str "application/json")) body

end OutboundResponse

end RegistryGateway
