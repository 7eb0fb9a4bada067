import RegistryGateway.Shape.Number
import RegistryGateway.Registry
import RegistryGateway.Text.Case

/-! The settings of the service and their resolution from environment variables. -/

namespace RegistryGateway

structure Settings where
  serviceName : String
  environment : String
  logLevel : String
  apiHost : String
  apiPort : Int
  functionBaseUrl : String
  strictValidation : Bool
  traceEnabled : Bool
  deriving DecidableEq

namespace Settings

def default : Settings where
  serviceName := "registry-agents"
  environment := "local"
  logLevel := "INFO"
  apiHost := "0.0.0.0"
  apiPort := 8080
  functionBaseUrl := Agent.defaultBaseUrl
  strictValidation := false
  traceEnabled := true

/-- What the variables of the service start with. -/
def variablePrefix : String := "REGISTRY_AGENTS_"

/-- The value of a variable, whatever the letter case of its name; of equal names the last
counts. -/
def lookup (env : List (String × String)) (name : String) : Option String :=
  (env.reverse.find? fun v => lower v.1 = lower name).map (·.2)

/-- The value of the variable for a field. -/
def fieldText (env : List (String × String)) (field : String) : Option String :=
  lookup env (variablePrefix ++ field)

/-- A field read from its variable; it keeps its default when the variable is not set. -/
def readField {α : Type} (env : List (String × String)) (field : String)
    (read : String → Except Fault α) (default : α) : Except Misfit α :=
  match fieldText env field with
  | none => .ok default
  | some text =>
    match read text with
    | .ok a => .ok a
    | .error fault => .error ⟨[field], fault⟩

/-- The misfit of a field that could not be read. -/
def misfits {α : Type} : Except Misfit α → List Misfit
  | .ok _ => []
  | .error m => [m]

/-- The settings under some environment variables, or the fields that cannot be read. -/
def ofEnvironment [Platform] (env : List (String × String)) : Except (List Misfit) Settings :=
  let text (field default : String) := (fieldText env field).getD default
  let port := readField env "api_port" Shape.integerOfText default.apiPort
  let strict := readField env "strict_validation" Shape.flagOfText default.strictValidation
  let trace := readField env "trace_enabled" Shape.flagOfText default.traceEnabled
  match port, strict, trace with
  | .ok port, .ok strict, .ok trace =>
    .ok
      { serviceName := text "service_name" default.serviceName
        environment := text "environment" default.environment
        logLevel := text "log_level" default.logLevel
        apiHost := text "api_host" default.apiHost
        apiPort := port
        functionBaseUrl := ((lookup env "FUNCTION_BASE_URL").orElse fun _ =>
          fieldText env "function_base_url").getD default.functionBaseUrl
        strictValidation := strict
        traceEnabled := trace }
  | port, strict, trace => .error (misfits port ++ misfits strict ++ misfits trace)

def toJson (s : Settings) : Json :=
  .obj [("service_name", .str s.serviceName), ("environment", .str s.environment),
    ("log_level", .str s.logLevel), ("api_host", .str s.apiHost), ("api_port", .int s.apiPort),
    ("function_base_url", .str s.functionBaseUrl), ("strict_validation", .bool s.strictValidation),
    ("trace_enabled", .bool s.traceEnabled)]

/-- The three built-in agents at the origin of the service. -/
def registry (s : Settings) (baseUrl : Option String) : AgentRegistry :=
  .default baseUrl s.functionBaseUrl

end Settings

end RegistryGateway
