import RegistryGateway.Registry
import RegistryGateway.Contract.Record

/-! Calling an agent by name and timing the call. -/

namespace RegistryGateway

structure AgentResult where
  data : Json
  layer : String
  durationMs : Int

structure AgentCall where
  agent : Agent
  body : Json

/-- What came of running an agent: its result or failure, the sources left, what was logged, and the
calls that were made. -/
structure Run where
  result : Except Failure AgentResult
  sources : Sources
  logs : List LogRecord
  calls : List AgentCall

namespace AgentResult

def toJson (r : AgentResult) : Json :=
  .obj [("data", r.data), ("agent_layer", .str r.layer), ("duration_ms", .int r.durationMs)]

/-- A result, which a negative duration prevents. -/
def make [Platform] (data : Json) (layer : String) (durationMs : Int) :
    Except Failure AgentResult :=
  match Contract.agentResult.check (toJson ⟨data, layer, durationMs⟩) with
  | .ok _ => .ok ⟨data, layer, durationMs⟩
  | .error misfits => .error (.misfit "AgentResult" misfits)

end AgentResult

namespace Executor

def logger : String := "orchestration.executor"

/-- The milliseconds between two readings of the clock, rounded to the nearest, a half to the even
neighbour. -/
def milliseconds (start finish : Double) : Except Failure Int :=
  match ((finish.sub start).scaleBy 1000).toNearestInt with
  | .ok n => .ok n
  | .error .infinite => .error .endlessDuration
  | .error .nan => .error .undefinedDuration

/-- Calls the agent registered under a name.  The clock is read before the call, and after it if the
agent answers, whether or not its answer can be written. -/
def run [Platform] (registry : AgentRegistry) (name : String) (body : Json) (s : Sources) : Run :=
  match registry.require name with
  | .error e => ⟨.error e, s, [], []⟩
  | .ok agent =>
    let calls := [⟨agent, body⟩]
    let (start, s) := s.tick
    match agent.execute body s with
    | (.error e, s) => ⟨.error e, s, [], calls⟩
    | (.ok output, s) =>
      let (finish, s) := s.tick
      match milliseconds start finish with
      | .error e => ⟨.error e, s, [], calls⟩
      | .ok ms =>
        match output.data with
        | .error e => ⟨.error e, s, [], calls⟩
        | .ok data =>
          let logs := [⟨.debug, logger, s!"Agent {name} completed in {ms}ms"⟩]
          ⟨AgentResult.make data agent.layer ms, s, logs, calls⟩

end Executor

end RegistryGateway
