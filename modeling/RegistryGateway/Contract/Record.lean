import RegistryGateway.Contract.Table
import RegistryGateway.Shape.Check

/-! The typed records of the contracts: what the agents answer with, and what strict validation
reads a request body as. -/

namespace RegistryGateway.Contract

def required (name : String) (shape : Shape) : String × Shape × Option Json := (name, shape, none)

/-- A field that may be null or missing, null by default. -/
def nullable (name : String) (shape : Shape) : String × Shape × Option Json :=
  (name, .optional shape, some .null)

def indexRequest : Shape :=
  .record "IndexRequest" .refuse
    [required "mode" (.choice true indexModes), nullable "asset_ids" (.list .text),
      nullable "asset_type" (.choice true assetTypes)]

def indexFailure : Shape :=
  .record "IndexFailure" .ignore [required "asset_id" .text, required "error" .text]

def indexResponse : Shape :=
  .record "IndexResponse" .ignore
    [required "indexed_count" (.integer []), required "failed_count" (.integer []),
      required "mode" .any, ("errors", .list indexFailure, some (.arr []))]

def reputationSignal : Shape :=
  .record "ReputationSignal" .ignore
    [required "score" (.real [.atMost 1, .atLeast 0]),
      required "category" (.choice true reputationCategories), nullable "evidence" .text]

def reputationRequest : Shape :=
  .record "ReputationRequest" .refuse
    [required "agent_id" .text, required "operation" (.choice true reputationOperations),
      nullable "signal" reputationSignal]

def reputationResponse : Shape :=
  .record "ReputationResponse" .ignore
    [required "agent_id" .any, required "overall_score" .number,
      required "category_scores" (.table .number), required "signal_count" (.integer []),
      required "last_updated" .text]

def bootstrapRequest : Shape :=
  .record "BootstrapRequest" .refuse
    [required "template_id" .text, required "agent_name" .text,
      nullable "config_overrides" (.table .any)]

def bootstrapEndpoints : Shape :=
  .record "BootstrapEndpoints" .ignore [required "health" .text, required "invoke" .text]

def bootstrapResponse : Shape :=
  .record "BootstrapResponse" .ignore
    [required "agent_id" .text, required "agent_name" .any, required "template_id" .any,
      required "status" (.choice false bootstrapStatuses),
      ("config_applied", .any, some (.obj [])), required "endpoints" bootstrapEndpoints]

def agentResult : Shape :=
  .record "AgentResult" .ignore
    [required "data" .any, required "agent_layer" .text,
      ("duration_ms", .integer [.atLeast 0], some (.int 0))]

/-- The typed request of each agent that has a contract. -/
def requestShapes : Assoc Shape :=
  [("index", indexRequest), ("reputation", reputationRequest), ("bootstrap", bootstrapRequest)]

end RegistryGateway.Contract
