import RegistryGateway.Agent.Failure
import RegistryGateway.Contract.Table
import RegistryGateway.Journal

/-! The agents behind the gateway.  Three are built in; any other is given by what it does with a
body.  An agent sees a body and the sources, and answers with a value or a failure. -/

namespace RegistryGateway

/-- The answer of an agent: a typed record, by what writing it gives, or any value as it is. -/
inductive AgentOutput
  | record (written : Except Failure Json)
  | plain (value : Json)

/-- What an agent given from outside does with a body: it answers or fails.  That may depend on the
sources, which it only looks at. -/
structure Behaviour where
  respond : Json → Sources → Except Failure AgentOutput

inductive Agent
  | index
  | reputation
  /-- Hands out endpoints under the public origin of the service. -/
  | bootstrap (baseUrl : String)
  /-- An agent of some kind, given from outside. -/
  | custom (kind name : String) (behaviour : Behaviour)

namespace Behaviour

def answer (value : Json) : Behaviour := ⟨fun _ _ => .ok (.plain value)⟩

def echo : Behaviour := ⟨fun body _ => .ok (.plain body)⟩

def fail (failure : Failure) : Behaviour := ⟨fun _ _ => .error failure⟩

end Behaviour

namespace AgentOutput

/-- The value that is published, or why there is none. -/
def data : AgentOutput → Except Failure Json
  | .record written => written
  | .plain v => .ok v

end AgentOutput

/-- How a typed record writes a value for which it gives no type: with null for every double that is
not finite, if it can write it at all. -/
def Json.written? [Platform] (v : Json) : Except Failure Json :=
  match Platform.writeFault? v with
  | some e => .error (.raised e)
  | none => .ok v.finite

namespace Agent

/-- The origin of the service where none is configured. -/
def defaultBaseUrl : String :=
  "https://us-central1-agentics-dev.cloudfunctions.net/registry-agents"

/-- The bootstrap agent of an origin; a missing or empty one is the default. -/
def bootstrapAt (baseUrl : Option String) (default : String) : Agent :=
  match baseUrl with
  | none => .bootstrap default
  | some url => .bootstrap (if url = "" then default else url)

/-- The name that an agent is registered under. -/
def name : Agent → String
  | .index => "index"
  | .reputation => "reputation"
  | .bootstrap _ => "bootstrap"
  | .custom _ name _ => name

def kind : Agent → String
  | .index => "IndexAgent"
  | .reputation => "ReputationAgent"
  | .bootstrap _ => "BootstrapAgent"
  | .custom kind _ _ => kind

/-- The label of an agent's part of a request. -/
def layer (a : Agent) : String := Contract.layerName a.name

/-- A member that the body may lack; null is as good as missing. -/
def optionalMember (body : Json) (key : String) : Except Failure Json :=
  match body with
  | .obj members => .ok ((Assoc.get? members key).getD .null)
  | other => .error (.notObject .optional other)

/-- A member that the body must have. -/
def requiredMember (body : Json) (key : String) : Except Failure Json :=
  match body with
  | .obj members =>
    match Assoc.get? members key with
    | some v => .ok v
    | none => .error (.missingKey (.str key))
  | other => .error (.notObject .required other)

/-- How many assets are meant: the items of a list, the characters of a text, none otherwise. -/
def assetCount : Json → Nat
  | .arr items => items.length
  | .str s => s.length
  | _ => 0

variable [Platform]

/-- What the index agent reports: how many assets it was given, and the mode. -/
def index.report (assets mode : Json) : Except Failure Json := do
  let mode ← mode.written?
  return .obj
    [("indexed_count", .int (assetCount assets)), ("failed_count", .int 0), ("mode", mode),
      ("errors", .arr [])]

def index.answer (body : Json) : Except Failure AgentOutput := do
  let assets ← optionalMember body "asset_ids"
  let mode ← requiredMember body "mode"
  return .record (index.report assets mode)

/-- What the reputation agent reports: a neutral reputation as of now. -/
def reputation.report (agent : Json) (now : Timestamp) : Except Failure Json := do
  let agent ← agent.written?
  return .obj
    [("agent_id", agent), ("overall_score", .int 0),
      ("category_scores", .obj (Contract.reputationCategories.map (·, .int 0))),
      ("signal_count", .int 0), ("last_updated", .str now.iso)]

def reputation.answer (body : Json) (now : Timestamp) : Except Failure AgentOutput := do
  let agent ← requiredMember body "agent_id"
  return .record (reputation.report agent now)

/-- What the bootstrap agent reports of an agent: its identifier, what was asked for, and the
endpoints of the service. -/
def bootstrap.report (baseUrl id : String) (agent template overrides : Json) :
    Except Failure Json := do
  let agent ← agent.written?
  let template ← template.written?
  let config ← (if overrides.isNull then .obj [] else overrides).written?
  return .obj
    [("agent_id", .str id), ("agent_name", agent), ("template_id", template),
      ("status", .str "created"), ("config_applied", config),
      ("endpoints", .obj
        [("health", .str (baseUrl ++ "/health")),
          ("invoke", .str (baseUrl ++ "/v1/registry/bootstrap"))])]

/-- The bootstrap agent draws an identifier whether or not the names are there. -/
def bootstrap.answer (baseUrl : String) (body : Json) (s : Sources) :
    Except Failure AgentOutput × Sources :=
  match optionalMember body "config_overrides" with
  | .error e => (.error e, s)
  | .ok overrides =>
    let (id, s) := s.fresh
    let output : Except Failure AgentOutput := do
      let agent ← requiredMember body "agent_name"
      let template ← requiredMember body "template_id"
      return .record (bootstrap.report baseUrl id agent template overrides)
    (output, s)

/-- The answer of an agent to a body. -/
def execute (a : Agent) (body : Json) (s : Sources) : Except Failure AgentOutput × Sources :=
  match a with
  | .index => (index.answer body, s)
  | .reputation => (reputation.answer body s.now, s)
  | .bootstrap baseUrl => bootstrap.answer baseUrl body s
  | .custom _ _ behaviour => (behaviour.respond body s, s)

end Agent

end RegistryGateway
