import RegistryGateway.Router
import RegistryGateway.Logging
import RegistryGateway.Json.Decode

/-! The service behind HTTP.  An HTTP request is turned into the router's request, and the router's
response is written back; only a method or a path that the service does not take is answered before
the router sees it. -/

namespace RegistryGateway.Http

/-- An HTTP request: the path is percent-decoded, a header may be repeated, and the names of headers
are as the server gives them. -/
structure Request where
  method : String
  path : String
  query : Bytes
  headers : List (String × String)
  body : Bytes

/-- An HTTP response with lower-case header names in order. -/
structure Response where
  status : Int
  headers : List (String × String)
  body : String

/-- What keeps a request from the router, or the router from answering it. -/
inductive Fault
  | query (e : DecodeError)
  | url (fault : UrlFault)
  /-- The request that the router would get is none. -/
  | headers (misfits : List Misfit)
  | body (e : Raised)

def Fault.message : Fault → String
  | .query e => e.message
  | .url fault => fault.message
  | .headers misfits => Failure.countMessage "InboundRequest" misfits
  | .body e => e.message

/-- What came of a request: the response or a fault, the sources left, and what was logged and
called. -/
structure Answer where
  outcome : Except Fault Response
  sources : Sources
  logs : List LogRecord
  calls : List AgentCall

def methods : List String := ["DELETE", "GET", "HEAD", "OPTIONS", "PATCH", "POST", "PUT"]

def logger : String := "app.api.registry"

/-- Whether the service has a path: it starts with a slash, and no line break stands before its last
character. -/
def hasPath (path : List Char) : Bool :=
  match path with
  | '/' :: rest => !rest.dropLast.contains '\n'
  | _ => false

section Url

variable [Platform]

/-- The URL of a request with a query, at the host that the platform takes it to. -/
def requestUrl (r : Request) (query : List Char) : List Char :=
  "http://".toList ++ Platform.urlHost (Assoc.get? r.headers "host") ++
    r.path.toList.flatMap Platform.urlChar ++ (if query.isEmpty then [] else '?' :: query)

/-- The URL of a request in its parts. -/
def splitUrl (r : Request) : Except Fault Url.Parts :=
  match Utf8.decode r.query with
  | .error e => .error (.query e)
  | .ok query =>
    match Url.split (requestUrl r query) with
    | .error fault => .error (.url fault)
    | .ok parts => .ok parts

/-- The value of a body: nothing for an empty one and for one that is not JSON, which is told
apart. -/
def readBody (body : Bytes) : Except Fault (Json × Bool) :=
  if body.isEmpty then .ok (.null, true)
  else
    match Json.load body with
    | .ok v => .ok (v, true)
    | .error (.decoding _) => .ok (.null, false)
    | .error (.nesting e) => .error (.body e)

end Url

/-- The headers by name, each with the first value that its name in lower case has, if that has
one. -/
def headerValues (headers : List (String × String)) : Assoc (Option String) :=
  Assoc.ofPairs (headers.map fun (name, _) => (name, Assoc.get? headers (lower name)))

/-- The first value of each header.  A header without a value is no text. -/
def firstValues (headers : List (String × String)) : Except Fault (List (String × String)) :=
  let values := headerValues headers
  let misfits := values.filterMap fun (name, value) =>
    if value.isNone then some ⟨["headers", name], .notText⟩ else none
  if misfits.isEmpty then .ok (values.filterMap fun (name, value) => value.map (name, ·))
  else .error (.headers misfits)

variable [Platform]

/-- The router's request for a URL that has been split, and what is logged about its body.  The body
is read before the headers are looked at. -/
def inbound (r : Request) (url : Url.Parts) : Except Fault InboundRequest × List LogRecord :=
  let path := String.ofList url.path
  let target := if url.query.isEmpty then path else s!"{path}?{String.ofList url.query}"
  match readBody r.body with
  | .error fault => (.error fault, [])
  | .ok (body, readable) =>
    let logs := if readable then []
      else [⟨.debug, logger, s!"Ignoring non-JSON body on {r.method} {path}"⟩]
    let request (headers : List (String × String)) : InboundRequest :=
      .make r.method (some path) target headers body
    ((firstValues r.headers).map request, logs)

/-- Pairs in the order of their names, and of their values where names are equal. -/
def sortPairs (pairs : List (String × String)) : List (String × String) :=
  pairs.mergeSort fun a b => a.1 < b.1 || (a.1 = b.1 && (a.2 < b.2 || a.2 = b.2))

/-- A response with its length; a response without content has none. -/
def withLength (status : Int) (headers : List (String × String)) (body : String) : Response :=
  let length := if status = 204 then [] else [("content-length", toString body.utf8ByteSize)]
  ⟨status, sortPairs (headers ++ length), body⟩

/-- The response of the router on the transport. -/
def ofOutbound (r : OutboundResponse) : Response :=
  withLength r.status (r.headers.map fun (name, value) => (lower name, value)) r.wire

/-- The answer of the framework to a request that the router does not see. -/
def plainError (status : Int) (detail : String) (headers : List (String × String)) : Response :=
  withLength status (headers ++ [("content-type", "application/json")])
    (Json.obj [("detail", .str detail)]).compact

/-- The answer of the framework to a request that ends in a fault. -/
def internalError : Response :=
  withLength 500 [("content-type", "text/plain; charset=utf-8")] "Internal Server Error"

/-- The response that is sent. -/
def Answer.response (a : Answer) : Response :=
  match a.outcome with
  | .ok response => response
  | .error _ => internalError

def answer (router : Router) (r : Request) (s : Sources) : Answer :=
  if !hasPath r.path.toList then ⟨.ok (plainError 404 "Not Found" []), s, [], []⟩
  else if !methods.contains r.method then
    let allow := [("allow", ", ".intercalate methods)]
    ⟨.ok (plainError 405 "Method Not Allowed" allow), s, [], []⟩
  else
    match splitUrl r with
    | .error fault => ⟨.error fault, s, [], []⟩
    | .ok url =>
      match inbound r url with
      | (.error fault, logs) => ⟨.error fault, s, logs, []⟩
      | (.ok request, logs) =>
        let handled := router.handle request s
        let outcome := match handled.outcome with
          | .ok response => .ok (ofOutbound response)
          | .error fault => .error (.url fault)
        ⟨outcome, handled.sources, logs ++ handled.logs, handled.calls⟩

def answerAll (router : Router) : List Request → Sources → List Answer
  | [], _ => []
  | r :: rest, s =>
    let a := answer router r s
    a :: answerAll router rest a.sources

end RegistryGateway.Http

namespace RegistryGateway.Settings

/-- The router of the service: the built-in agents, and a log line for each request, with a line for
each layer at the debug level. -/
def router (s : Settings) : Router where
  registry := s.registry (some s.functionBaseUrl)
  sink := .logging (upper s.logLevel = "DEBUG")
  service := s.serviceName
  strict := s.strictValidation
  traceEnabled := s.traceEnabled

end RegistryGateway.Settings
