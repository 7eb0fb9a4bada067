import RegistryGateway.Proofs.Adaptation
import RegistryGateway.Proofs.RequestForm
import Mathlib.Data.List.Find

/-! Repeated headers.  An HTTP request may repeat a header, and the first value counts; the router's
request, in which the last one would, is made of headers that are not repeated any more.  So the
first correlation id decides about the trace of a response, and an empty one asks for a fresh
identifier even when another follows. -/

namespace RegistryGateway

namespace InboundRequest

theorem header_of_lower {headers : Assoc String} (hnodup : headers.keys.Nodup)
    (hlower : ∀ name ∈ headers.keys, lower name = name) (method : String) (path : Option String)
    (url : String) (body : Json) (name : String) :
    (make method path url headers body).header name = headers.get? (lower name) := by
  rw [header, make, normalHeaders_of_lower hnodup hlower]

end InboundRequest

namespace Http

/-! ## First values -/

section

variable {headers values : List (String × String)} (h : firstValues headers = .ok values)

include h

theorem keys_firstValues_nodup : (Assoc.keys values).Nodup := by
  obtain ⟨-, rfl⟩ := (firstValues_eq_ok_iff headers values).mp h
  refine (headerValues_keys_nodup headers).sublist ?_
  generalize headerValues headers = found
  induction found with
  | nil => exact .slnil
  | cons entry rest ih =>
    obtain ⟨name, value⟩ := entry
    cases value with
    | none => exact ih.cons name
    | some v => exact ih.cons_cons name

/-- Each header keeps its name and takes the first value under that name in lower case. -/
theorem get?_firstValues (name v : String) :
    Assoc.get? values name = some v ↔
      name ∈ Assoc.keys headers ∧ Assoc.get? headers (lower name) = some v := by
  have hmem : (name, v) ∈ values ↔ (name, some v) ∈ headerValues headers := by
    obtain ⟨-, rfl⟩ := (firstValues_eq_ok_iff headers values).mp h
    rw [List.mem_filterMap]
    constructor
    · rintro ⟨⟨_, _ | found⟩, hfound, hpair⟩ <;> cases hpair
      exact hfound
    · exact fun hfound => ⟨_, hfound, rfl⟩
  rw [Assoc.get?_eq_some_iff (keys_firstValues_nodup h), hmem,
    ← Assoc.get?_eq_some_iff (headerValues_keys_nodup headers), get?_headerValues]
  split
  next hname => simp [hname]
  next hname => simp [hname]

end

/-! ## Traces -/

/-- Headers have names in lower-case ASCII. -/
def LowerNames (headers : List (String × String)) : Prop :=
  ∀ h ∈ headers, IsAscii h.1 ∧ lower h.1 = h.1

namespace LowerNames

variable {headers : List (String × String)}

theorem lower_of_mem_keys (h : LowerNames headers) {name : String}
    (hname : name ∈ Assoc.keys headers) : lower name = name := by
  obtain ⟨header, hheader, rfl⟩ := List.mem_map.mp hname
  exact (h header hheader).2

/-- A name in lower case has its own first value. -/
theorem get?_firstValues (h : LowerNames headers) {values : List (String × String)}
    (hvalues : firstValues headers = .ok values) (name : String) :
    Assoc.get? values name = Assoc.get? headers name := by
  apply Option.ext
  intro v
  rw [Http.get?_firstValues hvalues]
  constructor
  · rintro ⟨hname, hget⟩
    rwa [h.lower_of_mem_keys hname] at hget
  · intro hget
    have hname := (Assoc.mem_keys_iff headers name).mpr ⟨v, hget⟩
    rw [h.lower_of_mem_keys hname]
    exact ⟨hname, hget⟩

end LowerNames

/-- What a response tells of the trace of its request: nothing when the framework answered it or it
has no content, and else the metadata that name the trace. -/
inductive TellsTrace (traceId : String) : Response → Prop
  | failed : TellsTrace traceId internalError
  | unrouted (status : Int) (detail : String) (headers : List (String × String)) :
      TellsTrace traceId (plainError status detail headers)
  | contentless {response : Response} : response.body = "" → TellsTrace traceId response
  | enveloped {response : Response} {members : List (String × Json)} {m : ExecutionMetadata} :
      response.body = (Json.obj members).wire →
      Assoc.get? members "execution_metadata" = some m.toJson → m.traceId = traceId →
      TellsTrace traceId response

theorem tellsTrace_ofOutbound {traceId : String} {response : OutboundResponse}
    (h : ∀ members, response.body = some members → ∃ m : ExecutionMetadata,
      Assoc.get? members "execution_metadata" = some m.toJson ∧ m.traceId = traceId) :
    TellsTrace traceId (ofOutbound response) := by
  have hwire : (ofOutbound response).body = response.wire := rfl
  cases hbody : response.body with
  | none => exact .contentless (by rw [hwire, OutboundResponse.wire, hbody])
  | some members =>
    obtain ⟨m, hmetadata, htrace⟩ := h members hbody
    exact .enveloped (by rw [hwire, OutboundResponse.wire, hbody]) hmetadata htrace

end Http

section

variable [Platform]

namespace Router

/-- The trace of the metadata: the correlation id, or a fresh identifier when that is missing or
empty. -/
theorem metadata_traceId (r : Router) (request : InboundRequest) (s : Sources) :
    (r.metadata request s).1.traceId =
      InboundRequest.orElse (request.header correlationHeader) s.fresh.1 := by
  simp only [metadata, ExecutionMetadata.create, InboundRequest.orElse]
  cases request.header correlationHeader with
  | none => rfl
  | some id => by_cases hid : id = "" <;> simp [hid]

/-- A body holds the metadata of its request. -/
theorem handle_metadata (r : Router) {request : InboundRequest} {s : Sources}
    {response : OutboundResponse} (h : (r.handle request s).outcome = .ok response)
    {members : List (String × Json)} (hbody : response.body = some members) :
    Assoc.get? members "execution_metadata" = some (r.metadata request s).1.toJson := by
  by_cases hm : request.method = "OPTIONS"
  · rw [handle_options r s hm] at h
    cases h
    cases hbody
  cases hp : request.resolvePath with
  | error fault =>
    rw [handle_unresolved r s hm hp] at h
    cases h
  | ok path =>
    have hexit := r.dispatched_exit request path s
    rw [handle_resolved r s hm hp] at h
    cases h
    rw [hexit.body] at hbody
    cases hbody
    rw [Assoc.get?_append, Assoc.get?_of_not_mem hexit.not_mem_keys.1]
    rfl

end Router

namespace Http

/-- The router's request answers with the first value under a name. -/
theorem LowerNames.header_inbound {r : Request} (h : LowerNames r.headers) {url : Url.Parts}
    {request : InboundRequest} (hrequest : (inbound r url).1 = .ok request) (name : String) :
    request.header name = Assoc.get? r.headers (lower name) := by
  obtain ⟨body, _, values, -, hvalues, rfl⟩ := (inbound_eq_ok_iff r url request).mp hrequest
  have hlower : ∀ name ∈ Assoc.keys values, lower name = name := by
    intro name hname
    obtain ⟨v, hv⟩ := (Assoc.mem_keys_iff values name).mp hname
    exact h.lower_of_mem_keys ((Http.get?_firstValues hvalues name v).mp hv).1
  rw [InboundRequest.header_of_lower (keys_firstValues_nodup hvalues) hlower,
    h.get?_firstValues hvalues]

/-- The trace of a request: the first correlation id if that is not empty, and else a fresh
identifier. -/
def traceOf (r : Request) (s : Sources) : String :=
  InboundRequest.orElse (Assoc.get? r.headers "x-correlation-id") s.fresh.1

/-- A request goes by the first values of its headers, whatever its URL. -/
structure GoesByFirst (router : Router) (r : Request) (s : Sources) : Prop where
  adapted : ∀ url, (r.body = [] ∨ Platform.readFault? r.body = none) →
    ∃ request, (inbound r url).1 = .ok request
  header : ∀ url request, (inbound r url).1 = .ok request → ∀ name,
    request.header name = Assoc.get? r.headers (lower name)
  handled : ∀ url request response members, (inbound r url).1 = .ok request →
    (router.handle request s).outcome = .ok response → response.body = some members →
    ∃ m : ExecutionMetadata, Assoc.get? members "execution_metadata" = some m.toJson ∧
      m.traceId = traceOf r s
  answered : TellsTrace (traceOf r s) (answer router r s).response
  fresh : ∀ serial ≤ s.issued, s.fresh.1 ≠ Platform.identifier serial

/-- A service answers a request with lower-case header names by the first value of each, however
often and wherever it is repeated. -/
theorem answer_goesByFirst (router : Router) {r : Request} (s : Sources)
    (h : LowerNames r.headers) : GoesByFirst router r s := by
  have hhandled (url : Url.Parts) (request : InboundRequest) (response : OutboundResponse)
      (members : List (String × Json)) (hrequest : (inbound r url).1 = .ok request)
      (hresponse : (router.handle request s).outcome = .ok response)
      (hbody : response.body = some members) :
      ∃ m : ExecutionMetadata, Assoc.get? members "execution_metadata" = some m.toJson ∧
        m.traceId = traceOf r s := by
    have hname : lower Router.correlationHeader = "x-correlation-id" := by decide
    refine ⟨_, router.handle_metadata hresponse hbody, ?_⟩
    rw [Router.metadata_traceId, h.header_inbound hrequest, hname, traceOf]
  refine ⟨fun url hbody => ?_, fun url request hrequest => h.header_inbound hrequest, hhandled, ?_,
    fun serial hserial hsame => ?_⟩
  · refine (inbound_isOk_iff r url).mpr ⟨hbody, fun name hname => ?_⟩
    rwa [h.lower_of_mem_keys hname]
  · cases hpath : hasPath r.path.toList with
    | false =>
      rw [answer_of_no_path router s hpath]
      exact .unrouted 404 "Not Found" []
    | true =>
      by_cases hmethod : r.method ∈ methods
      · by_cases hadapted : ∃ parts request, Adapted r parts request
        · obtain ⟨parts, request, hadapted⟩ := hadapted
          obtain ⟨hanswered, hfailed, -⟩ := answer_of_adapted router s hpath hmethod hadapted
          cases houtcome : (router.handle request s).outcome with
          | error fault =>
            rw [hfailed fault houtcome]
            exact .failed
          | ok response =>
            rw [hanswered response houtcome]
            exact tellsTrace_ofOutbound fun members =>
              hhandled parts request response members hadapted.2 houtcome
        · rw [(answer_of_not_adapted router s hpath hmethod hadapted).1]
          exact .failed
      · rw [answer_of_other_method router s hpath hmethod]
        exact .unrouted 405 "Method Not Allowed" [("allow", ", ".intercalate methods)]
  · have hissued := Platform.identifier_injective hsame
    omega

end Http

end

namespace Http

open scoped Platform in
/-- An empty correlation id before another one asks for a fresh identifier. -/
theorem answer_goesByFirst_empty :
    let r : Request := ⟨"GET", "/health", [],
      [("x-correlation-id", ""), ("accept", "*/*"), ("x-correlation-id", "second")], []⟩
    let s : Sources := ⟨0, ⟨2026, 1, 1, 0, 0, 0, 0⟩, []⟩
    LowerNames r.headers ∧ traceOf r s = "00000000-0000-4000-8000-000000000001" ∧
      GoesByFirst ⟨.default none "", .memory, "registry", false, true⟩ r s := by
  intro r s
  have hnames : LowerNames r.headers := by
    simp only [LowerNames, r, List.forall_mem_cons]
    exact ⟨by decide, by decide, by decide, nofun⟩
  exact ⟨hnames, by decide, answer_goesByFirst _ s hnames⟩

end Http

end RegistryGateway
