import RegistryGateway.Shape.Check
import RegistryGateway.Text.Case
import RegistryGateway.Url.Split

/-! Requests apart from any transport.  A request is kept in a normal form: the method in upper case
and the header names in lower case. -/

namespace RegistryGateway

/-- A request: an upper-case method, the path that the transport found if it found one, the URL,
headers by lower-case name, and the decoded body. -/
structure InboundRequest where
  method : String
  path : Option String
  url : String
  headers : Assoc String
  body : Json

namespace InboundRequest

/-- The method in upper case; an empty one is GET. -/
def normalMethod (method : String) : String := upper (if method = "" then "GET" else method)

/-- Headers by lower-case name; of names that become equal the last value counts. -/
def normalHeaders (headers : List (String × String)) : Assoc String :=
  Assoc.ofPairs (headers.map fun (name, value) => (lower name, value))

/-- The request of some parts, brought into normal form. -/
def make (method : String) (path : Option String) (url : String)
    (headers : List (String × String)) (body : Json) : InboundRequest :=
  ⟨normalMethod method, path, url, normalHeaders headers, body⟩

/-- The shape of a request given by untyped parts. -/
def shape : Shape :=
  .record "InboundRequest" .ignore
    [("method", .text, some (.str "GET")), ("path", .optional .text, some .null),
      ("url", .text, some (.str "/")), ("headers", .table .text, some (.obj [])),
      ("body", .any, some .null)]

/-- The text of a value that is one. -/
def textOf? : Json → Option String
  | .str s => some s
  | _ => none

def textPairs : Json → List (String × String)
  | .obj members => members.filterMap fun (k, v) => (textOf? v).map (k, ·)
  | _ => []

/-- The request of an untyped value, or what is wrong with it. -/
def ofJson [Platform] (v : Json) : Except (List Misfit) InboundRequest :=
  (shape.normalize v).map fun record =>
    let part (key : String) := (record.member? key).getD .null
    make ((textOf? (part "method")).getD "") (textOf? (part "path"))
      ((textOf? (part "url")).getD "") (textPairs (part "headers")) (part "body")

def toJson (r : InboundRequest) : Json :=
  .obj [("method", .str r.method), ("path", .ofOption r.path), ("url", .str r.url),
    ("headers", .obj (r.headers.mapValues .str)), ("body", r.body)]

/-- The value of a header, whatever the letter case of its name. -/
def header (r : InboundRequest) (name : String) : Option String := r.headers.get? (lower name)

/-- A text unless it is empty. -/
def orElse (s : Option String) (default : String) : String :=
  match s with
  | none => default
  | some s => if s = "" then default else s

/-- Whether a text holds `://`. -/
def holdsOrigin : List Char → Bool
  | [] => false
  | c :: rest => "://".toList.isPrefixOf (c :: rest) || holdsOrigin rest

/-- The absolute URL of a request: its URL if that has an origin, else its URL at the host that it
names. -/
def absoluteUrl (r : InboundRequest) : List Char :=
  let url := (orElse (some r.url) "/").toList
  if holdsOrigin url then url
  else
    let host := orElse (r.headers.get? "host") "localhost"
    let path := match url with
      | '/' :: _ => url
      | _ => '/' :: url
    "http://".toList ++ host.toList ++ path

/-- The path that routing goes by: the explicit path if there is one, else the path of the absolute
URL, a slash if that is empty. -/
def resolvePath (r : InboundRequest) : Except UrlFault String :=
  match r.path with
  | some path => if path = "" then fromUrl else .ok path
  | none => fromUrl
where
  fromUrl : Except UrlFault String :=
    match Url.split r.absoluteUrl with
    | .error fault => .error fault
    | .ok parts => .ok (if parts.path.isEmpty then "/" else String.ofList parts.path)

end InboundRequest

end RegistryGateway
