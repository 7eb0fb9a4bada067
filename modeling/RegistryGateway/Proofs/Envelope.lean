import RegistryGateway.Proofs.Exit

/-! The envelope of a response.  Every response lets every origin read it.  One that answers OPTIONS
has no body; every other has a JSON body that ends with the metadata and the layers, whose layers
tell the status and the route, and which reports an error exactly when its status is that of one.
This holds at every exit of the router, and so of every response along every run. -/

namespace RegistryGateway

/-- The headers that let every origin read a response. -/
structure AllowsEveryOrigin (headers : Assoc String) : Prop where
  origin : headers.get? "Access-Control-Allow-Origin" = some "*"
  methods : headers.get? "Access-Control-Allow-Methods" = some "GET, POST, OPTIONS"
  names : headers.get? "Access-Control-Allow-Headers" =
    some "Content-Type, Authorization, X-Correlation-Id"
  maxAge : headers.get? "Access-Control-Max-Age" = some "3600"

/-- The routing layer in a body: only an unknown path makes it fail, and it is not measured. -/
def routingLayer (status : Int) : Json :=
  .obj [("layer", .str "AGENT_ROUTING"),
    ("status", .str (if status = 404 then "failed" else "completed"))]

/-- The layer of an agent in a body. -/
def agentLayer (name ending : String) (ms : Int) : Json :=
  .obj [("layer", .str ("REGISTRY_" ++ upper name)), ("status", .str ending),
    ("duration_ms", .int ms)]

/-- The layers of a body by its status and the route of its request: the routing layer, and after it
that of the agent if the agent's part was reached. -/
structure Layered (status : Int) (route : Route) (layers : List Json) : Prop where
  length : layers.length = 1 ∨ layers.length = 2
  routing : layers[0]? = some (routingLayer status)
  agent_iff : layers.length = 2 ↔
    status = 400 ∨ status = 500 ∨ status = 200 ∧ ∃ name, route = .agent name
  failed : status = 400 ∨ status = 500 →
    ∃ name, route = .agent name ∧ layers[1]? = some (agentLayer name "failed" 0)
  completed : status = 200 → ∀ name, route = .agent name →
    ∃ ms, 0 ≤ ms ∧ layers[1]? = some (agentLayer name "completed" ms)

namespace Layered

/-- The layers of a request that no agent's part was reached for. -/
theorem ofRouting {status : Int} {route : Route} (hfailed : ¬(status = 400 ∨ status = 500))
    (hroute : status = 200 → ∀ name, route ≠ .agent name) :
    Layered status route [routingLayer status] where
  length := .inl rfl
  routing := rfl
  agent_iff := by
    constructor
    · intro h
      cases h
    · rintro (h | h | ⟨h, name, hname⟩)
      · exact absurd (.inl h) hfailed
      · exact absurd (.inr h) hfailed
      · exact absurd hname (hroute h name)
  failed h := absurd h hfailed
  completed h name hname := absurd hname (hroute h name)

/-- The layers of a request whose agent did not get to answer. -/
theorem ofFailed {status : Int} (name : String) (h : status = 400 ∨ status = 500) :
    Layered status (.agent name) [routingLayer status, agentLayer name "failed" 0] where
  length := .inr rfl
  routing := rfl
  agent_iff := iff_of_true rfl (h.imp_right .inl)
  failed _ := ⟨name, rfl, rfl⟩
  completed h200 := by omega

/-- The layers of a request that an agent answered. -/
theorem ofCompleted (name : String) {ms : Int} (h : 0 ≤ ms) :
    Layered 200 (.agent name) [routingLayer 200, agentLayer name "completed" ms] where
  length := .inr rfl
  routing := rfl
  agent_iff := iff_of_true rfl (.inr (.inr ⟨rfl, name, rfl⟩))
  failed := by omega
  completed _ := by
    rintro _ ⟨⟩
    exact ⟨ms, h, rfl⟩

end Layered

/-- A body that an error is reported in exactly when the status is one of an error: the message is
text and says something. -/
structure ReportsError (status : Int) (members : List (String × Json)) : Prop where
  status_mem : status ∈ [200, 400, 404, 405, 500]
  error_iff : "error" ∈ Assoc.keys members ↔ 400 ≤ status
  message : ∀ v, Assoc.get? members "error" = some v → ∃ text, text ≠ "" ∧ v = .str text

namespace ReportsError

theorem ofSuccess {members : List (String × Json)} (h : "error" ∉ Assoc.keys members) :
    ReportsError 200 members where
  status_mem := by decide
  error_iff := iff_of_false h (by decide)
  message v hv := by
    rw [Assoc.get?_of_not_mem h] at hv
    cases hv

theorem ofError {status : Int} {text : String} {rest : List (String × Json)}
    (hstatus : status ∈ [400, 404, 405, 500]) (htext : text ≠ "") :
    ReportsError status (("error", .str text) :: rest) where
  status_mem := .tail _ hstatus
  error_iff := by
    refine iff_of_true (.head _) ?_
    simp only [List.mem_cons, List.not_mem_nil, or_false] at hstatus
    omega
  message v hv := by
    cases hv
    exact ⟨text, htext, rfl⟩

/-- Members that are no error are added to a body. -/
theorem append {status : Int} {first second : List (String × Json)}
    (h : ReportsError status first) (hsecond : "error" ∉ Assoc.keys second) :
    ReportsError status (first ++ second) where
  status_mem := h.status_mem
  error_iff := by
    simp only [Assoc.keys, List.map_append, List.mem_append] at hsecond ⊢
    rw [or_iff_left hsecond]
    exact h.error_iff
  message := by
    rw [Assoc.get?_append, Assoc.get?_of_not_mem hsecond, Option.or_none]
    exact h.message

end ReportsError

/-- What a body consists of: some members, then the metadata, then the layers, all of different
names. -/
structure EnvelopedBody (request : InboundRequest) (status : Int)
    (members : List (String × Json)) : Prop where
  nodup : (Assoc.keys members).Nodup
  closed : ∃ path payload layers, ∃ metadata : ExecutionMetadata,
    request.resolvePath = .ok path ∧
    members = payload ++
      [("execution_metadata", metadata.toJson), ("layers_executed", .arr layers)] ∧
    Layered status (Route.ofPath path) layers
  error : ReportsError status members

/-- What every response to a request looks like. -/
structure Enveloped (request : InboundRequest) (response : OutboundResponse) : Prop where
  cors : AllowsEveryOrigin response.headers
  options_iff : response.body = none ↔ request.method = "OPTIONS"
  status_iff : response.body = none ↔ response.status = 204
  contentType : response.body ≠ none →
    response.headers.get? "Content-Type" = some "application/json"
  body : ∀ members, response.body = some members → EnvelopedBody request response.status members

theorem append_ne_empty {start rest : String} (h : start ≠ "") : start ++ rest ≠ "" :=
  fun he => h (String.append_eq_empty_iff.mp he).1

/-- A rejection says something. -/
theorem Rejection.message_ne_empty (rejection : Rejection) : rejection.message ≠ "" := by
  cases rejection with
  | notObject => decide
  | missing field =>
    refine append_ne_empty ?_
    show "Missing required field: " ≠ ""
    decide
  | unknown field =>
    refine append_ne_empty ?_
    show "Unknown field: " ≠ ""
    decide
  | invalid misfit =>
    refine append_ne_empty (append_ne_empty (append_ne_empty (append_ne_empty ?_)))
    show "Invalid field: " ≠ ""
    decide

namespace Router

/-- So does what is said of a failure. -/
theorem failureText_ne_empty (e : Failure) : failureText e ≠ "" := by
  simp only [failureText]
  split
  · decide
  · assumption

theorem corsHeaders_allow : AllowsEveryOrigin corsHeaders := ⟨rfl, rfl, rfl, rfl⟩

theorem envelope_headers_allow (m : ExecutionMetadata) (reply : Reply) :
    AllowsEveryOrigin (envelope m reply).headers := ⟨rfl, rfl, rfl, rfl⟩

variable [Platform]

namespace Exit

variable {r : Router} {request : InboundRequest} {path traceId : String} {s : Sources}
  {d : Dispatched}

theorem layered (h : Exit r request path traceId s d) :
    Layered d.reply.status (Route.ofPath path) (d.reply.layers.map LayerEntry.toJson) := by
  cases h with
  | health hp | contracts hp =>
    rw [hp]
    show Layered 200 _ [routingLayer 200]
    exact .ofRouting (by decide) (fun _ _ => nofun)
  | unknown hp =>
    show Layered 404 _ [routingLayer 404]
    exact .ofRouting (by decide) (fun h => absurd h (by decide))
  | wrongMethod hp _ =>
    show Layered 405 _ [routingLayer 405]
    exact .ofRouting (by decide) (fun h => absurd h (by decide))
  | rejected hp _ _ =>
    rw [hp]
    exact .ofFailed _ (.inl rfl)
  | failed hp _ _ _ =>
    rw [hp]
    exact .ofFailed _ (.inr rfl)
  | answered hp _ _ hrun =>
    -- The label comes from the agent here, and from the route at the exits above.
    obtain ⟨hlabel, hms⟩ := Executor.result_of_run hrun
    rw [hp, hlabel]
    exact .ofCompleted _ hms

theorem reportsError (h : Exit r request path traceId s d) :
    ReportsError d.reply.status d.reply.payload := by
  cases h with
  | health | contracts | answered =>
    exact .ofSuccess (by simp [Assoc.keys, healthReply, contractsReply])
  | unknown =>
    show ReportsError 404 (("error", .str _) :: _)
    refine .ofError (by decide) (append_ne_empty ?_)
    show "Route not found: " ≠ ""
    decide
  | wrongMethod =>
    show ReportsError 405 [("error", .str _)]
    exact .ofError (by decide) (by decide)
  | rejected =>
    show ReportsError 400 [("error", .str _)]
    exact .ofError (by decide) (Rejection.message_ne_empty _)
  | failed =>
    show ReportsError 500 [("error", .str _)]
    exact .ofError (by decide) (failureText_ne_empty _)

theorem status_ne (h : Exit r request path traceId s d) : d.reply.status ≠ 204 := by
  have hmem := h.reportsError.status_mem
  intro heq
  rw [heq] at hmem
  revert hmem
  decide

end Exit

/-- One handled request: whatever response it gets is enveloped. -/
theorem handle_envelopes (r : Router) (request : InboundRequest) (s : Sources) :
    ∀ response, (r.handle request s).outcome = .ok response → Enveloped request response := by
  intro response hresponse
  by_cases hm : request.method = "OPTIONS"
  · rw [handle_options r s hm] at hresponse
    cases hresponse
    exact ⟨corsHeaders_allow, iff_of_true rfl hm, iff_of_true rfl rfl, fun h => absurd rfl h, nofun⟩
  cases hp : request.resolvePath with
  | error fault =>
    rw [handle_unresolved r s hm hp] at hresponse
    cases hresponse
  | ok path =>
    rw [handle_resolved r s hm hp] at hresponse
    cases hresponse
    have hexit := r.dispatched_exit request path s
    have hbody := hexit.body (r.metadata request s).1
    refine ⟨envelope_headers_allow _ _, iff_of_false (by simp [hbody]) hm,
      iff_of_false (by simp [hbody]) hexit.status_ne, fun _ => rfl, ?_⟩
    intro members hmembers
    rw [hbody] at hmembers
    cases hmembers
    refine ⟨?_, ⟨path, _, _, _, hp, rfl, hexit.layered⟩,
      hexit.reportsError.append (by simp [closing, Assoc.keys])⟩
    have hkeys := hexit.keys_nodup
    simpa [Assoc.keys, closing] using hkeys

/-- Every response along a run is enveloped. -/
theorem handleAll_enveloped (r : Router) (requests : List InboundRequest) (s : Sources) :
    List.Forall₂
      (fun request handled =>
        ∀ response, handled.outcome = .ok response → Enveloped request response)
      requests (r.handleAll requests s) :=
  handleAll_forall₂ r (handle_envelopes r) requests s

end Router

end RegistryGateway
