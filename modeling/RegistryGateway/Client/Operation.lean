import RegistryGateway.Client.Multipart
import RegistryGateway.Client.Reply
import RegistryGateway.Json.Text
import RegistryGateway.Shape.Check

/-! The operations of the registry API: what each asks for, and how it reads what it gets. -/

namespace RegistryGateway.Client

structure Upload where
  modelId : String
  name : String
  version : String
  contentType : String
  file : Bytes
  filename : Option String
  metadata : List (String × Json)

namespace Upload

/-- The upload of a record in normal form, with the bytes of its file. -/
def ofRecord (record : Json) (file : Bytes) : Upload where
  modelId := textAt record "model_id"
  name := textAt record "name"
  version := textAt record "version"
  contentType := textAt record "content_type"
  file := file
  filename := textAt? record "filename"
  metadata := membersOf ((record.member? "metadata").getD .null)

/-- The name of the file, which is the asset's unless it has its own. -/
def fileName (u : Upload) : String :=
  match u.filename with
  | some name => if name = "" then u.name else name
  | none => u.name

def parts (u : Upload) : List Multipart.Part :=
  [.text "name" u.name, .text "version" u.version, .text "content_type" u.contentType] ++
    (if u.metadata.isEmpty then [] else [.text "metadata" (Json.wire (.obj u.metadata))]) ++
    [⟨"file", some u.fileName, some u.contentType, u.file⟩]

end Upload

/-- What a model is updated with: a record, of which the supplied fields count, or members as they
are. -/
inductive Updates
  | record (updates : Datum)
  | members (updates : Json)

def Updates.toJson : Updates → Json
  | .record updates => updates.write ⟨true, false⟩
  | .members updates => updates

inductive Operation
  | listModels (filters : Option SearchFilters)
  | getModel (modelId : String)
  | createModel (request : Datum)
  | updateModel (modelId : String) (updates : Updates)
  | deleteModel (modelId : String)
  | searchModels (filters : SearchFilters)
  | listAssets (modelId : String)
  | getAsset (modelId assetId : String)
  | uploadAsset (upload : Upload)
  | downloadAsset (modelId assetId : String)
  | deleteAsset (modelId assetId : String)
  | health
  | version

inductive Content
  | none
  | json (v : Json)
  | form (parts : List Multipart.Part)

inductive Expected
  | nothing
  | bytes
  | payload
  | item (shape : Shape)
  | items (shape : Shape)

namespace Operation

def modelsPath : String := "/api/v1/models"

def assetsPath (modelId : String) : String := s!"{modelsPath}/{modelId}/assets"

def httpMethod : Operation → String
  | .createModel _ | .uploadAsset _ => "POST"
  | .updateModel _ _ => "PATCH"
  | .deleteModel _ | .deleteAsset _ _ => "DELETE"
  | _ => "GET"

def path : Operation → String
  | .listModels _ | .createModel _ => modelsPath
  | .getModel modelId | .updateModel modelId _ | .deleteModel modelId => s!"{modelsPath}/{modelId}"
  | .searchModels _ => modelsPath ++ "/search"
  | .listAssets modelId => assetsPath modelId
  | .uploadAsset upload => assetsPath upload.modelId
  | .getAsset modelId assetId | .deleteAsset modelId assetId => s!"{assetsPath modelId}/{assetId}"
  | .downloadAsset modelId assetId => s!"{assetsPath modelId}/{assetId}/download"
  | .health => "/health"
  | .version => "/version"

/-- The filters that the query of the request carries. -/
def filters : Operation → Option SearchFilters
  | .listModels filters => filters
  | .searchModels filters => some filters
  | _ => none

def content : Operation → Content
  | .createModel request => .json (request.write ⟨false, true⟩)
  | .updateModel _ updates => .json updates.toJson
  | .uploadAsset upload => .form upload.parts
  | _ => .none

def expected : Operation → Expected
  | .listModels _ | .searchModels _ => .items model
  | .getModel _ | .createModel _ | .updateModel _ _ => .item model
  | .listAssets _ => .items asset
  | .getAsset _ _ | .uploadAsset _ => .item asset
  | .downloadAsset _ _ => .bytes
  | .deleteModel _ | .deleteAsset _ _ => .nothing
  | .health | .version => .payload

end Operation

/-! ## Reading payloads -/

/-- Why a payload is not what an operation expects. -/
inductive PayloadFault
  | misfit (misfits : List Misfit)
  /-- A value of this kind, which has no items, stands for a list. -/
  | notItems (kind : String)

/-- Whether a value counts as nothing: null, false, zero, or empty. -/
def countsAsNothing : Json → Bool
  | .null | .bool false | .str "" | .arr [] | .obj [] => true
  | .int n => n = 0
  | .float d => d.isZero
  | _ => false

/-- The items of a value: those of a list, the characters of a text, the keys of an object, and none
of a value that counts as nothing. -/
def itemsOf (v : Json) : Except PayloadFault (List Json) :=
  if countsAsNothing v then .ok []
  else
    match v with
    | .arr items => .ok items
    | .str s => .ok (s.toList.map fun c => .str (String.singleton c))
    | .obj members => .ok (members.map fun m => .str m.1)
    | .null => .error (.notItems "NoneType")
    | .bool _ => .error (.notItems "bool")
    | .int _ => .error (.notItems "int")
    | .float _ => .error (.notItems "float")

/-- Items in the normal form of a shape; the first that does not have the shape is the fault. -/
def readItems [Platform] (shape : Shape) : List Json → Except PayloadFault (List Json)
  | [] => .ok []
  | v :: rest =>
    match shape.normalize v with
    | .error misfits => .error (.misfit misfits)
    | .ok item =>
      match readItems shape rest with
      | .error e => .error e
      | .ok items => .ok (item :: items)

namespace Expected

def readsJson : Expected → Bool
  | .nothing | .bytes => false
  | _ => true

def read [Platform] (e : Expected) (payload : Json) : Except PayloadFault Json :=
  match e with
  | .items shape =>
    match itemsOf payload with
    | .error e => .error e
    | .ok found => (readItems shape found).map .arr
  | .item shape =>
    match shape.normalize payload with
    | .error misfits => .error (.misfit misfits)
    | .ok v => .ok v
  | .payload => .ok payload
  | .nothing | .bytes => .ok .null

end Expected

end RegistryGateway.Client
