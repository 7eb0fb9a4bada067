import RegistryGateway.Client.Record

/-! Every record of the gateway and of its client. -/

namespace RegistryGateway

def contractRecords : List Shape :=
  [Contract.indexRequest, Contract.indexFailure, Contract.indexResponse,
    Contract.reputationSignal, Contract.reputationRequest, Contract.reputationResponse,
    Contract.bootstrapRequest, Contract.bootstrapEndpoints, Contract.bootstrapResponse,
    Contract.agentResult]

def clientRecords : List Shape :=
  [Client.executionContext, Client.spanArtifact, Client.executionSpan, Client.executionResult,
    Client.anyEnvelope, Client.modelEnvelope, Client.pagination, Client.anyPage, Client.assetPage,
    Client.errorResponse, Client.model, Client.asset, Client.createModelRequest,
    Client.updateModelRequest, Client.uploadAssetRequest, Client.searchFilters, Client.config]

def Shape.name? : Shape → Option String
  | .record name _ _ => some name
  | _ => none

def recordNamed? (name : String) : Option Shape :=
  (contractRecords ++ clientRecords).find? (·.name? = some name)

end RegistryGateway
