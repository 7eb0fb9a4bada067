import RegistryGateway.Agent

/-! The registry of agents by name, in the order of registration. -/

namespace RegistryGateway

/-- Registered agents, the first registered first. -/
structure AgentRegistry where
  agents : List Agent

inductive RegistrationError
  | unnamed (kind : String)
  | taken (name : String)
  deriving DecidableEq

def RegistrationError.message : RegistrationError → String
  | .unnamed kind => s!"{kind} has no AGENT_NAME"
  | .taken name => s!"Agent already registered: {name}"

namespace AgentRegistry

def empty : AgentRegistry := ⟨[]⟩

/-- The names of the agents in order of registration. -/
def names (r : AgentRegistry) : List String := r.agents.map (·.name)

def contains (r : AgentRegistry) (name : String) : Bool := r.names.contains name

def get? (r : AgentRegistry) (name : String) : Option Agent :=
  r.agents.find? (·.name = name)

/-- The agent registered under a name, or the failure that there is none. -/
def require (r : AgentRegistry) (name : String) : Except Failure Agent :=
  match r.get? name with
  | some a => .ok a
  | none => .error (.unknownAgent name)

/-- Registers an agent under its name, which must not be empty or taken. -/
def register (r : AgentRegistry) (a : Agent) : Except RegistrationError AgentRegistry :=
  if a.name = "" then .error (.unnamed a.kind)
  else if r.contains a.name then .error (.taken a.name)
  else .ok ⟨r.agents ++ [a]⟩

/-- Registers agents in turn, up to the first that is refused. -/
def ofAgents (agents : List Agent) : Except RegistrationError AgentRegistry :=
  agents.foldlM register empty

def default (baseUrl : Option String) (fallback : String) : AgentRegistry :=
  ⟨[.index, .reputation, Agent.bootstrapAt baseUrl fallback]⟩

end AgentRegistry

end RegistryGateway
