import RegistryGateway.Client.Headers
import RegistryGateway.Client.Search
import RegistryGateway.Http.Reason
import RegistryGateway.Json.Decode

/-! What the registry answers: replies, the error that a reply stands for, and the envelope around a
payload. -/

namespace RegistryGateway.Client

structure Reply where
  status : Int
  headers : Headers
  body : Bytes

/-- The error that a reply stands for.  The record is the body, if it is an error record. -/
structure RegistryError where
  status : Int
  detail : String
  code : Option String
  record : Option Json

def RegistryError.message (e : RegistryError) : String := s!"{e.status}: {e.detail}"

namespace Reply

/-- Whether the status is one of an error. -/
def isError (r : Reply) : Bool := 400 ≤ r.status && r.status ≤ 599

variable [Platform]

/-- The body as text, in the encoding that its content type names. -/
def text (r : Reply) : Except Raised String :=
  Platform.replyText (r.headers.get? "Content-Type") r.body

/-- The error record in the body, if the body is one. -/
def errorRecord? (r : Reply) : Except Raised (Option Json) :=
  match Json.load r.body with
  | .error (.nesting e) => .error e
  | .error (.decoding _) => .ok none
  | .ok v => .ok (errorResponse.normalize v).toOption

/-- The error that the reply stands for: the record in the body, else the body as text, else the
reason phrase of the status.  A body that can be neither is an error of the platform. -/
def error (r : Reply) : Except Raised RegistryError :=
  match r.errorRecord? with
  | .error e => .error e
  | .ok (some record) =>
    .ok ⟨r.status, textAt record "error", textAt? record "code", some record⟩
  | .ok none =>
    match r.text with
    | .error e => .error e
    | .ok text => .ok ⟨r.status, if text = "" then Http.reasonPhrase r.status else text, none, none⟩

end Reply

/-! ## Envelopes -/

namespace Envelope

/-- The execution in an envelope: its record in normal form, or its misfits.  A payload without
one is no envelope. -/
def execution? [Platform] (payload : Json) : Option (Except (List Misfit) Json) :=
  (payload.member? "execution").map executionResult.normalize

/-- The payload in an envelope: the data, else the items, else the envelope itself. -/
def content (payload : Json) : Json :=
  if (payload.member? "execution").isSome then
    ((payload.member? "data").orElse fun _ => payload.member? "items").getD payload
  else payload

end Envelope

end RegistryGateway.Client
