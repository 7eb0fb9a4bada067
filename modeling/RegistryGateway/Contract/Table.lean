import RegistryGateway.Contract.Schema
import RegistryGateway.Text.Case

/-! The published contracts of the three registry agents: what each accepts and what each
answers. -/

namespace RegistryGateway

/-- The schemas of an agent's request and response. -/
structure Contract where
  request : Schema
  response : Schema

namespace Contract

def string : Schema := [.type .string]

def number : Schema := [.type .number]

def oneOf (options : List String) : Schema := [.type .string, .enum options]

def assetTypes : List String := ["MODEL", "PIPELINE", "TEST_SUITE", "POLICY", "DATASET"]

def indexModes : List String := ["full", "incremental", "rebuild"]

def reputationOperations : List String := ["query", "record"]

def reputationCategories : List String := ["reliability", "accuracy", "latency", "compliance"]

def bootstrapStatuses : List String := ["created", "pending", "failed"]

def index : Contract where
  request :=
    [.type .object, .required ["mode"],
      .properties
        [("asset_ids", [.type .array, .items string]), ("mode", oneOf indexModes),
          ("asset_type", oneOf assetTypes)],
      .additionalProperties false]
  response :=
    [.type .object, .required ["indexed_count", "failed_count", "mode", "errors"],
      .properties
        [("indexed_count", number), ("failed_count", number), ("mode", string),
          ("errors",
            [.type .array,
              .items [.type .object, .properties [("asset_id", string), ("error", string)]]])]]

def reputation : Contract where
  request :=
    [.type .object, .required ["agent_id", "operation"],
      .properties
        [("agent_id", string), ("operation", oneOf reputationOperations),
          ("signal",
            [.type .object,
              .properties
                [("score", [.type .number, .minimum 0, .maximum 1]),
                  ("category", oneOf reputationCategories), ("evidence", string)],
              .required ["score", "category"]])],
      .additionalProperties false]
  response :=
    [.type .object,
      .required ["agent_id", "overall_score", "category_scores", "signal_count", "last_updated"],
      .properties
        [("agent_id", string), ("overall_score", number), ("category_scores", [.type .object]),
          ("signal_count", number), ("last_updated", [.type .string, .format "date-time"])]]

def bootstrap : Contract where
  request :=
    [.type .object, .required ["template_id", "agent_name"],
      .properties
        [("template_id", string), ("agent_name", string), ("config_overrides", [.type .object])],
      .additionalProperties false]
  response :=
    [.type .object,
      .required
        ["agent_id", "agent_name", "template_id", "status", "config_applied", "endpoints"],
      .properties
        [("agent_id", string), ("agent_name", string), ("template_id", string),
          ("status", oneOf bootstrapStatuses), ("config_applied", [.type .object]),
          ("endpoints",
            [.type .object, .properties [("health", string), ("invoke", string)]])]]

/-- The contracts by agent name, in the order in which they are published. -/
def table : Assoc Contract :=
  [("index", index), ("reputation", reputation), ("bootstrap", bootstrap)]

/-- The names of the agents that have a contract. -/
def agentNames : List String := table.keys

def toJson (c : Contract) : Json :=
  .obj [("request", Schema.toJson c.request), ("response", Schema.toJson c.response)]

def tableJson : Json := .obj (table.mapValues toJson)

/-- The label under which an agent's part of a request is recorded. -/
def layerName (agent : String) : String := "REGISTRY_" ++ upper agent

end Contract

end RegistryGateway
