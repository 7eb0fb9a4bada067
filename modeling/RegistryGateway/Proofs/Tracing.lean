import RegistryGateway.Proofs.Envelope

/-! The traces of a run.  A router that keeps its traces keeps one for each request other than
OPTIONS that got a response, in the order of the requests, and a trace says what its response says.
Nothing else leaves a trace, and without tracing nothing does. -/

namespace RegistryGateway

/-- A trace says what the members of a body say. -/
structure Summarises (t : RequestTrace) (members : List (String × Json)) : Prop where
  identity : ∃ metadata, Assoc.get? members "execution_metadata" = some metadata ∧
    metadata.member? "execution_id" = some (.str t.executionId) ∧
    metadata.member? "trace_id" = some (.str t.traceId)
  layers : ∃ entries : List LayerEntry, t.layers = entries.map .entry ∧
    Assoc.get? members "layers_executed" = some (.arr (entries.map LayerEntry.toJson))
  error : (Assoc.get? members "error").getD .null = .ofOption t.error

/-- A trace agrees with the response to a request. -/
structure Agrees (request : InboundRequest) (response : OutboundResponse) (t : RequestTrace) :
    Prop where
  status : t.status = .code response.status
  method : t.method = request.method
  path : request.resolvePath = .ok t.path
  body : ∃ members, response.body = some members ∧ Summarises t members

/-- The traces that one handled request leaves. -/
structure Recorded (request : InboundRequest) (handled : Handled) : Prop where
  options : request.method = "OPTIONS" → handled.traces = []
  failed : ∀ fault, handled.outcome = .error fault → handled.traces = []
  answered : request.method ≠ "OPTIONS" → ∀ response, handled.outcome = .ok response →
    ∃ t, handled.traces = [t] ∧ Agrees request response t

/-- A request other than OPTIONS with the response that it got. -/
def exchange? (request : InboundRequest) (handled : Handled) :
    Option (InboundRequest × OutboundResponse) :=
  if request.method = "OPTIONS" then none
  else
    match handled.outcome with
    | .ok response => some (request, response)
    | .error _ => none

/-- The requests other than OPTIONS that got a response, each with its response. -/
def exchanges (requests : List InboundRequest) (handled : List Handled) :
    List (InboundRequest × OutboundResponse) :=
  (requests.zip handled).filterMap fun p => exchange? p.1 p.2

theorem exchanges_cons (request : InboundRequest) (requests : List InboundRequest) (one : Handled)
    (handled : List Handled) :
    exchanges (request :: requests) (one :: handled) =
      (exchange? request one).toList ++ exchanges requests handled := by
  cases h : exchange? request one <;> simp [exchanges, h]

/-- One handled request leaves a trace for its answer, and none without one. -/
theorem Recorded.exchange {request : InboundRequest} {handled : Handled}
    (h : Recorded request handled) :
    List.Forall₂ (fun answer t => Agrees answer.1 answer.2 t) (exchange? request handled).toList
      handled.traces := by
  by_cases hm : request.method = "OPTIONS"
  · simp [exchange?, hm, h.options hm]
  cases houtcome : handled.outcome with
  | error fault => simp [exchange?, hm, houtcome, h.failed fault houtcome]
  | ok response =>
    obtain ⟨t, htraces, hagrees⟩ := h.answered hm response houtcome
    simpa [exchange?, hm, houtcome, htraces] using hagrees

/-- The traces of a run are those of its exchanges. -/
theorem exchanges_forall₂ {requests : List InboundRequest} {handled : List Handled}
    (h : List.Forall₂ Recorded requests handled) :
    List.Forall₂ (fun answer t => Agrees answer.1 answer.2 t) (exchanges requests handled)
      (handled.flatMap (·.traces)) := by
  induction h with
  | nil => exact .nil
  | cons hone _ ih =>
    rw [exchanges_cons, List.flatMap_cons]
    exact List.rel_append hone.exchange ih

namespace Router

/-- The router with tracing and a sink that keeps the traces. -/
def recording (r : Router) : Router := { r with sink := .memory, traceEnabled := true }

/-- The router without tracing. -/
def untraced (r : Router) : Router := { r with traceEnabled := false }

/-- The trace has the error of a body. -/
theorem bodyError?_eq {status : Int} {members : List (String × Json)}
    (h : ReportsError status members) :
    (Assoc.get? members "error").getD .null = .ofOption (bodyError? members) := by
  rw [bodyError?]
  cases herror : Assoc.get? members "error" with
  | none => rfl
  | some v =>
    obtain ⟨text, -, rfl⟩ := h.message v herror
    rfl

variable [Platform]

/-- The trace of an exit says what its body says. -/
theorem Exit.summarises {r : Router} {request : InboundRequest} {path traceId : String}
    {s : Sources} {d : Dispatched} (h : Exit r request path traceId s d) (m : ExecutionMetadata) :
    Summarises (trace m request path (envelope m d.reply) d.reply)
      (d.reply.payload ++ closing m d.reply) := by
  obtain ⟨hmetadata, hlayers⟩ := h.not_mem_keys
  refine ⟨⟨m.toJson, ?_, rfl, rfl⟩, ⟨d.reply.layers, rfl, ?_⟩, ?_⟩
  · rw [Assoc.get?_append, Assoc.get?_of_not_mem hmetadata]
    rfl
  · rw [Assoc.get?_append, Assoc.get?_of_not_mem hlayers]
    rfl
  · have hbody := h.body m
    have hclosing : "error" ∉ Assoc.keys (closing m d.reply) := by simp [closing, Assoc.keys]
    rw [bodyError?_eq (h.reportsError.append hclosing)]
    simp [trace, hbody]

/-- One handled request leaves the trace of its response, if any. -/
theorem handle_recorded (r : Router) (request : InboundRequest) (s : Sources) :
    Recorded request (r.recording.handle request s) := by
  by_cases hm : request.method = "OPTIONS"
  · rw [handle_options _ s hm]
    exact ⟨fun _ => rfl, fun _ _ => rfl, fun h => absurd hm h⟩
  cases hp : request.resolvePath with
  | error fault =>
    rw [handle_unresolved _ s hm hp]
    exact ⟨fun _ => rfl, fun _ _ => rfl, fun _ _ => nofun⟩
  | ok path =>
    rw [handle_resolved _ s hm hp]
    refine ⟨fun h => absurd h hm, fun _ => nofun, ?_⟩
    rintro - _ ⟨⟩
    have hexit := r.recording.dispatched_exit request path s
    exact ⟨_, rfl, rfl, rfl, hp, _, hexit.body _, hexit.summarises _⟩

theorem handle_untraced (r : Router) (request : InboundRequest) (s : Sources) :
    (r.untraced.handle request s).traces = [] := by
  by_cases hm : request.method = "OPTIONS"
  · rw [handle_options _ s hm]
  cases hp : request.resolvePath with
  | error fault => rw [handle_unresolved _ s hm hp]
  | ok path =>
    rw [handle_resolved _ s hm hp]
    rfl

theorem handleAll_untraced (r : Router) (requests : List InboundRequest) (s : Sources) :
    (r.untraced.handleAll requests s).flatMap (·.traces) = [] := by
  induction requests generalizing s with
  | nil => rfl
  | cons request rest ih =>
    rw [handleAll, List.flatMap_cons, handle_untraced, List.nil_append]
    exact ih _

/-- A run of a router that keeps its traces keeps one for each request other than OPTIONS that got a
response, in order and in agreement with that response.  No other request leaves a trace, and none
does without tracing. -/
theorem handleAll_traces (r : Router) (requests : List InboundRequest) (s : Sources) :
    List.Forall₂ (fun answer t => Agrees answer.1 answer.2 t)
      (exchanges requests (r.recording.handleAll requests s))
      ((r.recording.handleAll requests s).flatMap (·.traces)) ∧
    List.Forall₂ Recorded requests (r.recording.handleAll requests s) ∧
    (r.untraced.handleAll requests s).flatMap (·.traces) = [] := by
  have hrecorded := handleAll_forall₂ r.recording (handle_recorded r) requests s
  exact ⟨exchanges_forall₂ hrecorded, hrecorded, handleAll_untraced r requests s⟩

end Router

end RegistryGateway
