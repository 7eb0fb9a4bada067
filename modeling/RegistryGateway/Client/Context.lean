import RegistryGateway.Client.Headers
import RegistryGateway.Client.Search

/-! The execution context, which travels in two headers, and the configuration of a client. -/

namespace RegistryGateway.Client

/-- The execution that a request belongs to, and the span that it was made from. -/
structure ExecutionContext where
  executionId : String
  parentSpanId : String
  deriving DecidableEq

namespace ExecutionContext

/-- The context of a record in normal form. -/
def ofRecord (record : Json) : ExecutionContext :=
  ⟨textAt record "execution_id", textAt record "parent_span_id"⟩

def ofJson [Platform] (v : Json) : Except (List Misfit) ExecutionContext :=
  (executionContext.normalize v).map ofRecord

def toJson (c : ExecutionContext) : Json :=
  .obj [("execution_id", .str c.executionId), ("parent_span_id", .str c.parentSpanId)]

def headers (c : ExecutionContext) : Headers :=
  [("X-Execution-Id", c.executionId), ("X-Parent-Span-Id", c.parentSpanId)]

end ExecutionContext

/-- How a client reaches the registry and what it sends along. -/
structure Config where
  baseUrl : String
  token : Option String
  /-- How long a request may take, in seconds. -/
  timeout : Double
  context : Option ExecutionContext
  headers : Assoc String

namespace Config

def textEntries (v : Json) : Assoc String :=
  (membersOf v).filterMap fun
    | (name, .str value) => some (name, value)
    | _ => none

/-- The configuration of a record in normal form. -/
def ofRecord (record : Json) : Config where
  baseUrl := textAt record "base_url"
  token := textAt? record "api_token"
  timeout :=
    match record.member? "timeout" with
    | some (.float d) => d
    | _ => .zero
  context :=
    match record.member? "execution_context" with
    | some (.obj members) => some (.ofRecord (.obj members))
    | _ => none
  headers := textEntries ((record.member? "headers").getD .null)

def ofJson [Platform] (v : Json) : Except (List Misfit) Config := (config.normalize v).map ofRecord

/-- The bearer token, unless it is empty. -/
def authorization (c : Config) : Assoc String :=
  match c.token with
  | some token => if token = "" then [] else [("Authorization", "Bearer " ++ token)]
  | none => []

/-- The headers of every request: what is accepted, the bearer token and the configured ones, each
of which takes the place of one that is spelled the same. -/
def defaults (c : Config) : Headers :=
  Assoc.update (("Accept", "application/json") :: c.authorization) c.headers

end Config

end RegistryGateway.Client
