import RegistryGateway.Executor
import RegistryGateway.Contract.Validation
import RegistryGateway.Request
import RegistryGateway.Response
import RegistryGateway.Trace.Metadata
import RegistryGateway.Trace.Sink

/-! Routing.  `Router.handle` takes one request to health, the contracts or an agent and wraps
what came of it in an envelope: every response carries the same headers, every body ends with the
metadata and the layers, and the same layers go into the trace. -/

namespace RegistryGateway

/-- A router: the agents it dispatches to, where its traces go, and how it is configured. -/
structure Router where
  registry : AgentRegistry
  sink : TraceSink
  service : String
  strict : Bool
  traceEnabled : Bool

/-- Where a path leads. -/
inductive Route
  | health
  | contracts
  | agent (name : String)
  | unknown
  deriving DecidableEq

namespace Route

def agentPaths : List (String × String) :=
  [("/v1/registry/index", "index"), ("/v1/registry/reputation", "reputation"),
    ("/v1/registry/bootstrap", "bootstrap")]

/-- The paths that callers are told about. -/
def available : List String := ["/health", "/contracts"] ++ agentPaths.map (·.1)

def ofPath (path : String) : Route :=
  if path = "/health" ∨ path = "/" then .health
  else if path = "/contracts" then .contracts
  else
    match agentPaths.find? (·.1 = path) with
    | some (_, name) => .agent name
    | none => .unknown

end Route

/-- What a route answers with: a status, the members of the body before the metadata, and the layers
passed through. -/
structure Reply where
  status : Int
  payload : List (String × Json)
  layers : List LayerEntry

/-- What came of handling a request: the response, or why its URL has no path; the sources left; and
what was logged, called and traced. -/
structure Handled where
  outcome : Except UrlFault OutboundResponse
  sources : Sources
  logs : List LogRecord
  calls : List AgentCall
  traces : List RequestTrace

namespace Router

def logger : String := "orchestration.router"

def corsHeaders : Assoc String :=
  [("Access-Control-Allow-Origin", "*"), ("Access-Control-Allow-Methods", "GET, POST, OPTIONS"),
    ("Access-Control-Allow-Headers", "Content-Type, Authorization, X-Correlation-Id"),
    ("Access-Control-Max-Age", "3600")]

/-- The header that carries the caller's correlation id. -/
def correlationHeader : String := "X-Correlation-Id"

def routed : LayerEntry := .completed LayerEntry.routing none

def healthReply (r : Router) : Reply :=
  ⟨200, [("status", .str "healthy"), ("agents", .strings r.registry.names)], [routed]⟩

def contractsReply : Reply := ⟨200, [("contracts", Contract.tableJson)], [routed]⟩

def unknownReply (path : String) : Reply :=
  ⟨404,
    [("error", .str s!"Route not found: {path}"), ("available_routes", .strings Route.available)],
    [.failed LayerEntry.routing none]⟩

def errorPayload (message : String) : List (String × Json) := [("error", .str message)]

/-- The reply of an agent that did not get to answer. -/
def failedReply (status : Int) (name message : String) : Reply :=
  ⟨status, errorPayload message, [routed, .failed (Contract.layerName name) (some 0)]⟩

/-- What is said of a failure that says nothing itself. -/
def failureText (e : Failure) : String :=
  if e.message = "" then "Internal agent error" else e.message

variable [Platform]

/-- The problem of a body for an agent, as text. -/
def rejectionText? (strict : Bool) (name : String) (body : Json) : Option String :=
  match Contract.rejection strict name body with
  | .ok (some rejection) => some rejection.message
  | .ok none => none
  | .error _ => none

/-- A reply with what was logged and called on the way to it. -/
structure Dispatched where
  reply : Reply
  sources : Sources
  logs : List LogRecord
  calls : List AgentCall

/-- Dispatches to an agent: only by POST, only with a body that its contract allows. -/
def dispatch (r : Router) (name : String) (request : InboundRequest) (traceId : String)
    (s : Sources) : Dispatched :=
  if request.method ≠ "POST" then
    ⟨⟨405, errorPayload "Method not allowed. Use POST.", [routed]⟩, s, [], []⟩
  else
    match rejectionText? r.strict name request.body with
    | some problem =>
      let log := ⟨.info, logger, s!"[{traceId}] Rejected {name} request: {problem}"⟩
      ⟨failedReply 400 name problem, s, [log], []⟩
    | none =>
      let run := Executor.run r.registry name request.body s
      match run.result with
      | .error e =>
        let log := ⟨.error, logger, s!"[{traceId}] Agent {name} failed"⟩
        ⟨failedReply 500 name (failureText e), run.sources, run.logs ++ [log], run.calls⟩
      | .ok result =>
        let layers := [routed, .completed result.layer (some result.durationMs)]
        ⟨⟨200, [("data", result.data)], layers⟩, run.sources, run.logs, run.calls⟩

def reply (r : Router) (path : String) (request : InboundRequest) (traceId : String)
    (s : Sources) : Dispatched :=
  match Route.ofPath path with
  | .health => ⟨r.healthReply, s, [], []⟩
  | .contracts => ⟨contractsReply, s, [], []⟩
  | .agent name => r.dispatch name request traceId s
  | .unknown => ⟨unknownReply path, s, [], []⟩

/-- The response of a reply: its payload, then the metadata, then the layers. -/
def envelope (metadata : ExecutionMetadata) (reply : Reply) : OutboundResponse :=
  .json reply.status corsHeaders
    (Assoc.put (Assoc.put reply.payload "execution_metadata" metadata.toJson) "layers_executed"
      (.arr (reply.layers.map LayerEntry.toJson)))

/-- The error that a body reports. -/
def bodyError? (body : List (String × Json)) : Option String :=
  match Assoc.get? body "error" with
  | some (.str message) => some message
  | _ => none

def trace (metadata : ExecutionMetadata) (request : InboundRequest) (path : String)
    (response : OutboundResponse) (reply : Reply) : RequestTrace where
  executionId := metadata.executionId
  traceId := metadata.traceId
  method := request.method
  path := path
  status := .code response.status
  layers := reply.layers.map .entry
  error := bodyError? (response.body.getD [])

/-- What becomes of a trace when it is emitted; a refusal is logged. -/
def emit (r : Router) (t : RequestTrace) : List RequestTrace × List LogRecord :=
  if r.traceEnabled then
    let emission := r.sink.emit t
    let warning := match emission.refusal with
      | none => []
      | some reason =>
        [⟨.warning, logger, s!"[{t.traceId}] Failed to emit request trace: {reason}"⟩]
    (emission.kept, emission.logs ++ warning)
  else ([], [])

/-- Handles one request.  OPTIONS is answered without looking at the path. -/
def handle (r : Router) (request : InboundRequest) (s : Sources) : Handled :=
  if request.method = "OPTIONS" then ⟨.ok (.empty 204 corsHeaders), s, [], [], []⟩
  else
    match request.resolvePath with
    | .error fault => ⟨.error fault, s, [], [], []⟩
    | .ok path =>
      let (metadata, s) :=
        ExecutionMetadata.create r.service (request.header correlationHeader) s
      let dispatched := r.reply path request metadata.traceId s
      let response := envelope metadata dispatched.reply
      let (kept, logs) := r.emit (trace metadata request path response dispatched.reply)
      ⟨.ok response, dispatched.sources, dispatched.logs ++ logs, dispatched.calls, kept⟩

/-- Handles requests in turn, each with the sources that the one before it left. -/
def handleAll (r : Router) : List InboundRequest → Sources → List Handled
  | [], _ => []
  | request :: rest, s =>
    let handled := r.handle request s
    handled :: handleAll r rest handled.sources

end Router

end RegistryGateway
