import RegistryGateway.Client.Context
import RegistryGateway.Client.Operation
import RegistryGateway.Journal
import RegistryGateway.Url.Target

/-! A session with the registry.  `Session.request` is the request that an operation sends,
`Session.receive` what is made of the reply, and `Session.perform` both together; what a session
remembers is the execution context in force and the last execution that a reply carried. -/

namespace RegistryGateway.Client

open Url (Target TargetFault)

structure Request where
  method : String
  target : Target
  headers : Headers
  body : Bytes
  timeout : Double

/-- What became of a request: a reply, or a failure of the connection of some kind. -/
inductive Exchange
  | reply (r : Reply)
  | failure (kind message : String)

/-- What becomes of a request to a target: a reply cannot be kept unless the target has a scheme. -/
def Exchange.through (t : Target) : Exchange → Exchange
  | .reply r =>
    if t.namesScheme then .reply r
    else .failure "ValueError" ("unknown url type: " ++ quotedText (String.ofList t.text))
  | .failure kind message => .failure kind message

/-- Why a session could not be opened or an operation gave no result. -/
inductive CallError
  | target (fault : TargetFault)
  | header (fault : NotAscii)
  /-- The content holds a number that JSON cannot write. -/
  | notFinite
  | closed
  | connection (kind message : String)
  /-- The reply points to a place that is no target. -/
  | redirect (fault : TargetFault)
  | refused (e : RegistryError)
  | undecodable (e : Json.LoadFailure)
  /-- The reply has the status of an error and does not say which. -/
  | unreadable (e : Raised)
  | payload (fault : PayloadFault)

def PayloadFault.message : PayloadFault → String
  | .misfit misfits => "\n".intercalate (misfits.map (·.fault.message))
  | .notItems kind => s!"'{kind}' object is not iterable"

def CallError.message : CallError → String
  | .target fault => fault.message
  | .header fault => fault.message
  | .notFinite => "Out of range float values are not JSON compliant"
  | .closed => "Cannot send a request, as the client has been closed."
  | .connection _ message => message
  | .redirect fault => s!"Invalid URL in location header: {fault.message}."
  | .refused e => e.message
  | .undecodable e => e.message
  | .unreadable e => e.message
  | .payload fault => fault.message

inductive Result
  | value (v : Json)
  | bytes (content : Bytes)

structure Session where
  config : Config
  base : Target
  /-- The boundary of forms whose content type does not set one. -/
  boundary : List Char
  context : Option ExecutionContext
  lastExecution : Option Json
  closed : Bool

/-- What came of one step of a session. -/
structure Turn where
  session : Session
  result : Except CallError Result
  requests : List Request
  logs : List LogRecord

namespace Session

def logger : String := "llm_registry_sdk.client"

def start (config : Config) (boundary : List Char) : Except CallError Session :=
  match (Target.parse config.baseUrl.toList).bind Target.asBase with
  | .error e => .error (.target e)
  | .ok base =>
    match Headers.asciiFault? config.defaults with
    | some e => .error (.header e)
    | none => .ok ⟨config, base, boundary, config.context, none, false⟩

/-! ## Requests -/

/-- The target of an operation.  Filters replace the query. -/
def target (s : Session) (op : Operation) : Except TargetFault Target :=
  match s.base.under op.path.toList, op.filters with
  | .error e, _ => .error e
  | .ok t, some filters => t.withQuery filters.queryText
  | .ok t, none => .ok t

def formBoundary (s : Session) : List Char :=
  ((s.config.defaults.get? "Content-Type").bind Multipart.boundaryOf?).getD s.boundary

/-- The bytes of some content and its type, or a number that cannot be written. -/
def encodeContent (boundary : List Char) : Content → Except CallError (Option String × Bytes)
  | .none => .ok (none, [])
  | .json v =>
    if v.allFinite then .ok (some "application/json", Utf8.encode v.compact.toList)
    else .error .notFinite
  | .form parts => .ok (some (Multipart.contentType boundary), Multipart.encode boundary parts)

/-- The host goes first unless the headers name one or the target has none. -/
def withHost (t : Target) (hs : Headers) : Headers :=
  if hs.contains "Host" || t.host.isEmpty then hs else ("Host", String.ofList t.place) :: hs

/-- The name and the password of a target, which take the place of every other authorization. -/
def withCredentials (t : Target) (hs : Headers) : Headers :=
  let (name, password) := t.credentials
  if name.isEmpty && password.isEmpty then hs
  else
    let encoded := Base64.encode (Utf8.encode (name ++ ':' :: password))
    hs.set "Authorization" ("Basic " ++ String.ofList encoded)

/-- The headers of a request before those of the execution context. -/
def ownHeaders (s : Session) (t : Target) (contentType : Option String) : Headers :=
  let hs := match contentType with
    | some type => s.config.defaults.setDefault "Content-Type" type
    | none => s.config.defaults
  withCredentials t (withHost t hs)

def contextHeaders (s : Session) : Headers :=
  match s.context with
  | some c => c.headers
  | none => []

/-- The request of an operation.  Faults of the target come first, then those of the content, then a
closed session, then those of the context. -/
def request (s : Session) (op : Operation) : Except CallError Request :=
  match s.target op with
  | .error e => .error (.target e)
  | .ok t =>
    match encodeContent s.formBoundary op.content with
    | .error e => .error e
    | .ok (contentType, body) =>
      if s.closed then .error .closed
      else
        match Headers.asciiFault? s.contextHeaders with
        | some e => .error (.header e)
        | none =>
          .ok
            { method := op.httpMethod
              target := t
              headers := (s.ownHeaders t contentType).update s.contextHeaders
              body := body
              timeout := s.config.timeout }

/-! ## Replies -/

def redirects : List Int := [301, 302, 303, 307, 308]

/-- What is wrong with the place that a reply points to.  A place with a scheme and no host is
taken on the host of the request. -/
def redirectFault? (t : Target) (r : Reply) : Option CallError :=
  if redirects.contains r.status then
    match r.headers.get? "Location" with
    | none => none
    | some location =>
      match Target.parse location.toList with
      | .error e => some (.redirect e)
      | .ok place =>
        if place.scheme.isEmpty || !place.host.isEmpty then none
        else
          match Target.ofParts place.scheme { place with host := t.host }.authority place.path
            place.query place.fragment with
          | .error e => some (.target e)
          | .ok _ => none
  else none

variable [Platform]

/-- The session after a payload: an execution in it is remembered, unless it has misfits, of which a
warning is given. -/
def remember (s : Session) (payload : Json) : Session × List LogRecord :=
  match Envelope.execution? payload with
  | none => (s, [])
  | some (.ok record) => ({ s with lastExecution := some record }, [])
  | some (.error misfits) =>
    let count := misfits.length
    let noun := if count = 1 then "error" else "errors"
    (s, [⟨.warning, logger,
      s!"Ignoring malformed execution result: {count} validation {noun} for ExecutionResult"⟩])

def taken (expected : Expected) (payload : Json) : Except CallError Result :=
  match expected.read payload with
  | .ok v => .ok (.value v)
  | .error e => .error (.payload e)

/-- What an operation makes of a reply that is no error: the session after it, the result, and
what is logged. -/
def accept (s : Session) (expected : Expected) (r : Reply) :
    Session × Except CallError Result × List LogRecord :=
  match expected with
  | .nothing => (s, .ok (.value .null), [])
  | .bytes => (s, .ok (.bytes r.body), [])
  | expected =>
    if r.body.isEmpty then (s, taken expected .null, [])
    else
      match Json.load r.body with
      | .error e => (s, .error (.undecodable e), [])
      | .ok payload =>
        let (s, logs) := s.remember payload
        (s, taken expected (Envelope.content payload), logs)

/-- What an operation makes of what became of its request. -/
def receive (s : Session) (op : Operation) (request : Request) :
    Exchange → Session × Except CallError Result × List LogRecord
  | .failure kind message => (s, .error (.connection kind message), [])
  | .reply r =>
    match redirectFault? request.target r with
    | some e => (s, .error e, [])
    | none =>
      if r.isError then
        match r.error with
        | .ok e => (s, .error (.refused e), [])
        | .error e => (s, .error (.unreadable e), [])
      else s.accept op.expected r

/-- An operation with what became of its request, if it sent one. -/
def perform (s : Session) (op : Operation) (exchange : Exchange) : Turn :=
  match s.request op with
  | .error e => ⟨s, .error e, [], []⟩
  | .ok request =>
    let (session, result, logs) := s.receive op request (exchange.through request.target)
    ⟨session, result, [request], logs⟩

/-! ## Steps -/

/-- A step of a session: an operation and what became of its request, or a step that sends
nothing. -/
inductive Step
  | call (op : Operation) (exchange : Exchange)
  | setContext (context : Option ExecutionContext)
  | showContext
  | close

/-- The context in force, null for none. -/
def contextJson (s : Session) : Json :=
  match s.context with
  | some c => c.toJson
  | none => .null

def step (s : Session) : Step → Turn
  | .call op exchange => s.perform op exchange
  | .setContext context =>
    let s := { s with context := context }
    ⟨s, .ok (.value s.contextJson), [], []⟩
  | .showContext => ⟨s, .ok (.value s.contextJson), [], []⟩
  | .close => ⟨{ s with closed := true }, .ok (.value .null), [], []⟩

def after (s : Session) (steps : List Step) : Session :=
  steps.foldl (fun s step => (s.step step).session) s

end Session

end RegistryGateway.Client
