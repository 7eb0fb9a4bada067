import RegistryGateway.Journal

/-! The metadata of one handled request. -/

namespace RegistryGateway

/-- The identity of one handled request, reported with its response. -/
structure ExecutionMetadata where
  traceId : String
  timestamp : String
  service : String
  executionId : String
  deriving DecidableEq

namespace ExecutionMetadata

/-- The metadata of a new execution.  The trace is the caller's correlation id, or a fresh
identifier when that is missing or empty; the execution is always fresh. -/
def create [Platform] (service : String) (correlationId : Option String) (s : Sources) :
    ExecutionMetadata × Sources :=
  let (traceId, s) := match correlationId with
    | none => s.fresh
    | some id => if id = "" then s.fresh else (id, s)
  let (executionId, s) := s.fresh
  (⟨traceId, s.now.iso, service, executionId⟩, s)

def toJson (m : ExecutionMetadata) : Json :=
  .obj [("trace_id", .str m.traceId), ("timestamp", .str m.timestamp),
    ("service", .str m.service), ("execution_id", .str m.executionId)]

end ExecutionMetadata

end RegistryGateway
