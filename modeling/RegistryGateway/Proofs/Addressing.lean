import RegistryGateway.Proofs.Progress
import RegistryGateway.Proofs.Refusal
import RegistryGateway.Proofs.Target

/-! Where the identifiers of an operation end up in the target of its request.  They are put into
the text of the path as they are, and the text is read as the path of a URL. -/

namespace RegistryGateway

namespace Client

open Url (Target hasEscape isDots)

namespace Operation

/-- The identifiers that the path of an operation holds. -/
def identifiers : Operation → List String
  | .getModel modelId | .updateModel modelId _ | .deleteModel modelId | .listAssets modelId =>
    [modelId]
  | .uploadAsset upload => [upload.modelId]
  | .getAsset modelId assetId | .downloadAsset modelId assetId | .deleteAsset modelId assetId =>
    [modelId, assetId]
  | _ => []

/-- The segments of the resource that an operation is for. -/
def resource : Operation → List String
  | .listModels _ | .createModel _ => ["api", "v1", "models"]
  | .searchModels _ => ["api", "v1", "models", "search"]
  | .getModel modelId | .updateModel modelId _ | .deleteModel modelId =>
    ["api", "v1", "models", modelId]
  | .listAssets modelId => ["api", "v1", "models", modelId, "assets"]
  | .uploadAsset upload => ["api", "v1", "models", upload.modelId, "assets"]
  | .getAsset modelId assetId | .deleteAsset modelId assetId =>
    ["api", "v1", "models", modelId, "assets", assetId]
  | .downloadAsset modelId assetId =>
    ["api", "v1", "models", modelId, "assets", assetId, "download"]
  | .health => ["health"]
  | .version => ["version"]

/-- The segments of the resource, as characters. -/
def resourceChars (op : Operation) : List (List Char) := op.resource.map String.toList

theorem path_eq (op : Operation) : op.path.toList = '/' :: joinChars ['/'] op.resourceChars := by
  cases op <;>
    simp [path, assetsPath, modelsPath, resourceChars, resource, joinChars, toString]

theorem resourceChars_ne_nil (op : Operation) : op.resourceChars ≠ [] := by
  cases op <;> simp [resourceChars, resource]

theorem head?_resource (op : Operation) : (joinChars ['/'] op.resourceChars).head? ≠ some '/' := by
  cases op <;> simp [resourceChars, resource, joinChars]

/-- The segments that are no identifiers. -/
def words : List String :=
  ["api", "v1", "models", "search", "assets", "download", "health", "version"]

theorem mem_resource {op : Operation} {segment : String} (h : segment ∈ op.resource) :
    segment ∈ words ∨ segment ∈ op.identifiers := by
  cases op <;> simp only [resource, identifiers, words, List.mem_cons, List.not_mem_nil, or_false]
    at h ⊢ <;> grind

theorem mem_resource_of_mem_identifiers {op : Operation} {id : String} (h : id ∈ op.identifiers) :
    id ∈ op.resource := by
  cases op <;> simp only [resource, identifiers, List.mem_cons, List.not_mem_nil, or_false]
    at h ⊢ <;> grind

/-- The identifiers among the segments of a resource. -/
def identifiersOf : List String → List String
  | _ :: _ :: _ :: modelId :: _ :: assetId :: _ => [modelId, assetId]
  | _ :: _ :: _ :: modelId :: _ => [modelId]
  | _ => []

theorem identifiersOf_resource {op : Operation} (h : op.identifiers ≠ []) :
    identifiersOf op.resource = op.identifiers := by
  cases op <;> first | rfl | exact absurd rfl h

end Operation

/-- The target is that of the resource of an operation under a base. -/
structure InPlace (base t : Target) (op : Operation) : Prop where
  segments : t.segments = base.rootSegments ++ op.resourceChars
  query : t.query = none
  fragment : t.fragment = none

/-- The base and the identifiers of an operation leave each other alone. -/
structure Separate (base t : Target) (op : Operation) : Prop where
  query : base.query = none
  fragment : base.fragment = none
  identifiers : ∀ id ∈ op.identifiers, t.Tame id.toList

theorem tame_words (t : Target) : ∀ word ∈ Operation.words, t.Tame word.toList := by
  have hall : ∀ word ∈ Operation.words, '/' ∉ word.toList ∧ '?' ∉ word.toList ∧
      '#' ∉ word.toList ∧ hasEscape word.toList = false ∧ isDots word.toList = false := by
    decide
  intro word hword
  obtain ⟨hslash, hquestion, hhash, hescape, hdots⟩ := hall word hword
  exact ⟨hslash, hquestion, hhash, hescape, fun _ => hdots⟩

/-- An operation goes to its resource exactly when its base and its identifiers leave each other
alone. -/
theorem inPlace_iff_separate {base t : Target} {op : Operation} (hbase : base.IsBase)
    (hunder : base.under op.path.toList = .ok t) : InPlace base t op ↔ Separate base t op := by
  rw [op.path_eq] at hunder
  obtain ⟨hfragment, -⟩ := Target.under_eq_ok hbase.kept op.head?_resource hunder
  constructor
  · intro h
    obtain ⟨hquery, htame⟩ := Target.tame_of_segments hbase op.head?_resource
      op.resourceChars_ne_nil hunder h.segments h.query
    exact ⟨hquery, hfragment.mp h.fragment, fun id hid =>
      htame _ (List.mem_map_of_mem (Operation.mem_resource_of_mem_identifiers hid))⟩
  · intro h
    have htame : ∀ segment ∈ op.resourceChars, t.Tame segment := by
      intro segment hsegment
      obtain ⟨text, htext, rfl⟩ := List.mem_map.mp hsegment
      obtain hword | hid := Operation.mem_resource htext
      · exact tame_words t text hword
      · exact h.identifiers text hid
    obtain ⟨hsegments, hquery⟩ := Target.segments_of_tame hbase op.head?_resource
      op.resourceChars_ne_nil hunder h.query htame
    exact ⟨hsegments, hquery, hfragment.mpr h.fragment⟩

namespace Session

/-! ## Sessions -/

theorem start_isBase {config : Config} {boundary : List Char} {s : Session}
    (h : start config boundary = .ok s) : s.base.IsBase := by
  obtain ⟨base, hbase, -, rfl⟩ := (start_eq_ok_iff config boundary s).mp h
  cases hparse : Target.parse config.baseUrl.toList with
  | error e => rw [hparse] at hbase; cases hbase
  | ok t =>
    rw [hparse] at hbase
    exact Target.asBase_isBase hparse hbase

section

variable [Platform]

/-- A request that holds identifiers goes to the path of its operation. -/
theorem under_of_sent {s : Session} {op : Operation} {exchange : Exchange} {request : Request}
    (hids : op.identifiers ≠ []) (h : request ∈ (s.perform op exchange).requests) :
    s.base.under op.path.toList = .ok request.target := by
  have hfilters : op.filters = none := by
    cases op <;> simp [Operation.identifiers, Operation.filters] at hids ⊢
  have htarget := target_of_request ((mem_requests_iff s op exchange request).mp h)
  rw [target, hfilters] at htarget
  cases hunder : s.base.under op.path.toList with
  | error e => rw [hunder] at htarget; cases htarget
  | ok t =>
    rw [hunder] at htarget
    exact htarget

/-- A request that a session sends for an operation at some time. -/
def Sent (s : Session) (op : Operation) (request : Request) : Prop :=
  ∃ steps exchange, request ∈ ((s.after steps).perform op exchange).requests

/-- Where the request of an operation goes. -/
structure Addressed (s : Session) (op : Operation) (t : Target) : Prop where
  inPlace_iff : InPlace s.base t op ↔ Separate s.base t op
  /-- Operations that go to the same place have the same identifiers. -/
  distinct : ∀ other request, other.identifiers ≠ [] → s.Sent other request →
    Separate s.base t op → Separate s.base request.target other → request.target.path = t.path →
    other.identifiers = op.identifiers

theorem inPlace_of_sent {config : Config} {boundary : List Char} {s : Session}
    (hstart : start config boundary = .ok s) {op : Operation} (hids : op.identifiers ≠ [])
    {request : Request} (hsent : s.Sent op request) :
    InPlace s.base request.target op ↔ Separate s.base request.target op := by
  obtain ⟨steps, exchange, hmem⟩ := hsent
  have hunder := under_of_sent hids hmem
  rw [after_base] at hunder
  exact inPlace_iff_separate (start_isBase hstart) hunder

/-- Of every session, every operation that holds identifiers goes to its resource exactly when its
identifiers are tame and the base has neither query nor fragment. -/
theorem sent_addressed {config : Config} {boundary : List Char} {s : Session}
    (hstart : start config boundary = .ok s) {op : Operation} (hids : op.identifiers ≠ [])
    {request : Request} (hsent : s.Sent op request) : s.Addressed op request.target := by
  refine ⟨inPlace_of_sent hstart hids hsent, ?_⟩
  intro other otherRequest hother hothersent hop hseparate hpath
  have hfirst := (inPlace_of_sent hstart hids hsent).mpr hop
  have hsecond := (inPlace_of_sent hstart hother hothersent).mpr hseparate
  have hsegments : otherRequest.target.segments = request.target.segments := by
    rw [Target.segments, hpath, Target.segments]
  rw [hfirst.segments, hsecond.segments] at hsegments
  have hresource : other.resource = op.resource :=
    (List.map_inj_right fun _ _ => String.toList_inj.mp).mp (List.append_cancel_left hsegments)
  rw [← Operation.identifiersOf_resource hother, hresource, Operation.identifiersOf_resource hids]

end

/-- The base and the target of the first request of a session. -/
def firstTarget? (config : Config) (op : Operation) : Option (Target × Target) :=
  match start config [] with
  | .error _ => none
  | .ok s =>
    match s.request op with
    | .error _ => none
    | .ok request => some (s.base, request.target)

theorem request_of_firstTarget? {config : Config} {op : Operation} {base t : Target}
    (h : firstTarget? config op = some (base, t)) :
    ∃ s request, start config [] = .ok s ∧ s.base = base ∧ s.request op = .ok request ∧
      request.target = t := by
  rw [firstTarget?] at h
  split at h
  · cases h
  next s hs =>
  split at h
  · cases h
  next request hrequest =>
  obtain ⟨rfl, rfl⟩ := Prod.mk.inj (Option.some.inj h)
  exact ⟨s, request, hs, rfl, hrequest, rfl⟩

theorem Sent.of_request [Platform] {s : Session} {op : Operation} {request : Request}
    (h : s.request op = .ok request) : s.Sent op request :=
  ⟨[], .failure "" "", (mem_requests_iff s op _ request).mpr h⟩

theorem sent_of_firstTarget? [Platform] {config : Config} {op : Operation} {base t : Target}
    (h : firstTarget? config op = some (base, t)) :
    ∃ s request, start config [] = .ok s ∧ s.base = base ∧ s.Sent op request ∧
      request.target = t := by
  obtain ⟨s, request, hs, hbase, hrequest, htarget⟩ := request_of_firstTarget? h
  exact ⟨s, request, hs, hbase, .of_request hrequest, htarget⟩

/-- The target of a path on some host. -/
def onHost (path : String) : Target :=
  ⟨"http".toList, [], "registry.test".toList, none, path.toList, none, none⟩

open scoped Platform in
/-- Blanks and lone percent signs are tame. -/
theorem sent_addressed_blank :
    ∃ s request, start (configAt "http://registry.test") [] = .ok s ∧
      s.Sent (.downloadAsset "m 1" "50%") request ∧
      InPlace s.base request.target (.downloadAsset "m 1" "50%") := by
  have hfirst : firstTarget? (configAt "http://registry.test") (.downloadAsset "m 1" "50%") =
      some (onHost "", onHost "/api/v1/models/m%201/assets/50%/download") := by decide +kernel
  obtain ⟨s, request, hs, hbase, hsent, htarget⟩ := sent_of_firstTarget? hfirst
  refine ⟨s, request, hs, hsent, ?_⟩
  rw [(sent_addressed hs (by decide) hsent).inPlace_iff, hbase, htarget]
  refine ⟨rfl, rfl, fun id hid => ?_⟩
  obtain rfl | rfl : id = "m 1" ∨ id = "50%" := by simpa [Operation.identifiers] using hid
  · exact ⟨by decide, by decide, by decide, by decide, fun _ => by decide⟩
  · exact ⟨by decide, by decide, by decide, by decide, fun _ => by decide⟩

open scoped Platform in
/-- A model whose identifier holds slashes is deleted where an asset of another model is. -/
theorem sent_astray :
    ∃ s deletion other, start (configAt "http://registry.test") [] = .ok s ∧
      s.Sent (.deleteModel "m/assets/a") deletion ∧ s.Sent (.deleteAsset "m" "a") other ∧
      deletion.target = other.target ∧
      ¬InPlace s.base deletion.target (.deleteModel "m/assets/a") := by
  have hdeletion : firstTarget? (configAt "http://registry.test") (.deleteModel "m/assets/a") =
      some (onHost "", onHost "/api/v1/models/m/assets/a") := by decide +kernel
  have hother : firstTarget? (configAt "http://registry.test") (.deleteAsset "m" "a") =
      some (onHost "", onHost "/api/v1/models/m/assets/a") := by decide +kernel
  obtain ⟨s, deletion, hs, hbase, hsent, htarget⟩ := sent_of_firstTarget? hdeletion
  obtain ⟨s', other, hs', -, hsent', htarget'⟩ := sent_of_firstTarget? hother
  cases hs.symm.trans hs'
  refine ⟨s, deletion, other, hs, hsent, hsent', htarget.trans htarget'.symm, fun h => ?_⟩
  have hsegments := h.segments
  rw [htarget, hbase] at hsegments
  have hlength : (onHost "/api/v1/models/m/assets/a").segments.length = 7 := by decide +kernel
  have hexpected : ((onHost "").rootSegments ++
      (Operation.deleteModel "m/assets/a").resourceChars).length = 5 := by decide +kernel
  rw [hsegments, hexpected] at hlength
  cases hlength

end Session

end Client

end RegistryGateway
