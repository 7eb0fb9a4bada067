import RegistryGateway.Contract.Record

/-! The records of the registry API: execution spans and envelopes, models and assets, the requests
that the client sends, and its configuration. -/

namespace RegistryGateway.Client

open Contract (required nullable)

def executionContext : Shape :=
  .record "ExecutionContext" .ignore
    [required "execution_id" .text, required "parent_span_id" .text]

def spanArtifact : Shape :=
  .record "SpanArtifact" .ignore
    [required "name" .text, nullable "content_type" .text, ("data", .any, some .null)]

def executionSpan : Shape :=
  .record "ExecutionSpan" .ignore
    [required "span_id" .text, required "parent_span_id" .text,
      required "span_type" (.choice true ["repo", "agent"]), required "name" .text,
      required "started_at" .text, nullable "ended_at" .text,
      required "status" (.choice true ["ok", "failed"]),
      ("artifacts", .list spanArtifact, some (.arr [])),
      ("attributes", .table .any, some (.obj []))]

def executionResult : Shape :=
  .record "ExecutionResult" .ignore
    [required "execution_id" .text, ("spans", .list executionSpan, some (.arr []))]

/-- An envelope around data of a shape, under the name that its shape gives it. -/
def executionEnvelope (name : String) (data : Shape) : Shape :=
  .record name .ignore
    [required "data" data, required "execution" executionResult, nullable "meta" (.table .any)]

def pagination : Shape :=
  .record "Pagination" .ignore
    [required "total" (.integer []), required "offset" (.integer []),
      required "limit" (.integer []), required "has_more" .flag]

/-- An envelope around a page of items of a shape, under the name that its shape gives it. -/
def paginatedEnvelope (name : String) (item : Shape) : Shape :=
  .record name .ignore
    [required "items" (.list item), required "pagination" pagination,
      required "execution" executionResult]

def errorResponse : Shape :=
  .record "ErrorResponse" .ignore
    [required "status" (.integer []), required "error" .text, nullable "code" .text,
      nullable "timestamp" .text, nullable "execution" executionResult]

def model : Shape :=
  .record "Model" .keep
    [required "id" .text, required "name" .text, required "version" .text,
      nullable "description" .text, nullable "provider" .text, required "created_at" .text,
      required "updated_at" .text, nullable "tags" (.list .text),
      nullable "metadata" (.table .any)]

def asset : Shape :=
  .record "Asset" .keep
    [required "id" .text, required "model_id" .text, required "name" .text,
      required "version" .text, required "content_type" .text, required "size" (.integer []),
      required "checksum" .text, required "storage_path" .text, required "created_at" .text,
      nullable "metadata" (.table .any)]

def createModelRequest : Shape :=
  .record "CreateModelRequest" .ignore
    [required "name" .text, required "version" .text, nullable "description" .text,
      nullable "provider" .text, nullable "tags" (.list .text), nullable "metadata" (.table .any)]

def updateModelRequest : Shape :=
  .record "UpdateModelRequest" .ignore
    [nullable "name" .text, nullable "version" .text, nullable "description" .text,
      nullable "provider" .text, nullable "tags" (.list .text), nullable "metadata" (.table .any)]

def uploadAssetRequest : Shape :=
  .record "UploadAssetRequest" .ignore
    [required "model_id" .text, required "name" .text, required "version" .text,
      required "content_type" .text, required "file" .any, nullable "filename" .text,
      nullable "metadata" (.table .any)]

def searchFilters : Shape :=
  .record "SearchFilters" .ignore
    [nullable "query" .text, nullable "provider" .text, nullable "tags" (.list .text),
      nullable "limit" (.integer []), nullable "offset" (.integer [])]

def config : Shape :=
  .record "LLMRegistryConfig" .ignore
    [required "base_url" .text, nullable "api_token" .text,
      ("timeout", .real [.above 0], some (.float (.ofDecimal false 30 0))),
      nullable "execution_context" executionContext, ("headers", .table .text, some (.obj []))]

def anyEnvelope : Shape := executionEnvelope "ExecutionEnvelope" .any

def modelEnvelope : Shape := executionEnvelope "ExecutionEnvelope[Model]" model

def anyPage : Shape := paginatedEnvelope "PaginatedExecutionEnvelope" .any

def assetPage : Shape := paginatedEnvelope "PaginatedExecutionEnvelope[Asset]" asset

end RegistryGateway.Client
