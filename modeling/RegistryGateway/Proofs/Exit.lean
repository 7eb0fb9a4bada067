import RegistryGateway.Proofs.Execution
import RegistryGateway.Router
import Mathlib.Data.List.Forall2

/-! The exits of the router.  A request is answered at once, fails because its URL has no path, or
leaves by one of the `Exit`s of its route: each comes with the condition under which it is taken and
with all that is left behind.  What holds at every exit holds of every request that is handled, and
what holds of every request that is handled holds along every run. -/

namespace RegistryGateway

namespace Route

theorem ofPath_eq_health_iff (path : String) :
    ofPath path = .health ↔ path = "/health" ∨ path = "/" := by
  simp only [ofPath]
  split
  · simpa
  · split
    · simp_all
    · split <;> simp_all

theorem ofPath_eq_contracts_iff (path : String) :
    ofPath path = .contracts ↔ path = "/contracts" := by
  simp only [ofPath]
  split
  next h => rcases h with rfl | rfl <;> simp
  · split
    · simpa
    · split <;> simp_all

/-- An agent's route is that of a path in the list. -/
theorem ofPath_eq_agent_iff (path name : String) :
    ofPath path = .agent name ↔ (path, name) ∈ agentPaths := by
  simp only [ofPath, agentPaths, List.find?]
  split
  next h => rcases h with rfl | rfl <;> simp
  split
  next h => simp [h]
  by_cases hi : path = "/v1/registry/index"
  · subst hi; simp [eq_comm]
  by_cases hr : path = "/v1/registry/reputation"
  · subst hr; simp [eq_comm]
  by_cases hb : path = "/v1/registry/bootstrap"
  · subst hb; simp [eq_comm]
  simp [hi, hr, hb, Ne.symm hi, Ne.symm hr, Ne.symm hb]

theorem ofPath_eq_unknown_iff (path : String) :
    ofPath path = .unknown ↔ path ∉ "/" :: available := by
  simp only [ofPath, available, agentPaths, List.find?, List.map, List.cons_append, List.nil_append]
  split
  next h => rcases h with rfl | rfl <;> simp
  split
  next h => simp [h]
  by_cases hi : path = "/v1/registry/index"
  · subst hi; simp
  by_cases hr : path = "/v1/registry/reputation"
  · subst hr; simp
  by_cases hb : path = "/v1/registry/bootstrap"
  · subst hb; simp
  simp_all [Ne.symm hi, Ne.symm hr, Ne.symm hb]

/-- Every agent with a path has a contract. -/
theorem mem_agentNames_of_ofPath {path name : String} (h : ofPath path = .agent name) :
    name ∈ Contract.agentNames := by
  have hnames : ∀ p ∈ agentPaths, p.2 ∈ Contract.agentNames := by decide
  exact hnames _ ((ofPath_eq_agent_iff path name).mp h)

end Route

namespace Contract

variable [Platform]

/-- A body is checked without failure for every agent that has a contract. -/
theorem rejection_isOk {name : String} (h : name ∈ agentNames) (strict : Bool) (body : Json) :
    ∃ found, rejection strict name body = .ok found := by
  have hschema : ∃ schema, requestSchema name = .ok schema := by
    simp only [agentNames, Assoc.keys, table, List.map_cons, List.map_nil, List.mem_cons,
      List.not_mem_nil, or_false] at h
    rcases h with rfl | rfl | rfl <;> exact ⟨_, rfl⟩
  obtain ⟨schema, hschema⟩ := hschema
  have hstructural : ∃ found, structuralRejection name body = .ok found := by
    cases body with
    | obj members => exact ⟨_, by simp only [structuralRejection, hschema]; rfl⟩
    | null | bool | int | float | str | arr => exact ⟨_, rfl⟩
  obtain ⟨found, hfound⟩ := hstructural
  cases strict with
  | false => exact ⟨found, hfound⟩
  | true =>
    cases found with
    | none => exact ⟨_, by simp only [rejection, strictRejection, hfound]; rfl⟩
    | some r => exact ⟨_, by simp only [rejection, strictRejection, hfound]; rfl⟩

end Contract

namespace Router

variable [Platform]

/-- The metadata of a request, and the sources after they were drawn. -/
def metadata (r : Router) (request : InboundRequest) (s : Sources) :
    ExecutionMetadata × Sources :=
  ExecutionMetadata.create r.service (request.header correlationHeader) s

/-- The metadata draw identifiers only. -/
theorem metadata_sources (r : Router) (request : InboundRequest) (s : Sources) :
    ∃ issued, (r.metadata request s).2 = { s with issued := issued } := by
  simp only [metadata, ExecutionMetadata.create]
  split
  · exact ⟨_, rfl⟩
  · split
    · exact ⟨_, rfl⟩
    · exact ⟨_, rfl⟩

theorem metadata_clock (r : Router) (request : InboundRequest) (s : Sources) :
    (r.metadata request s).2.clock = s.clock := by
  obtain ⟨issued, h⟩ := r.metadata_sources request s
  rw [h]

theorem metadata_now (r : Router) (request : InboundRequest) (s : Sources) :
    (r.metadata request s).2.now = s.now := by
  obtain ⟨issued, h⟩ := r.metadata_sources request s
  rw [h]

/-- What the route of a path answers to a request, after its metadata. -/
def dispatched (r : Router) (request : InboundRequest) (path : String) (s : Sources) : Dispatched :=
  r.reply path request (r.metadata request s).1.traceId (r.metadata request s).2

theorem handle_options (r : Router) {request : InboundRequest} (s : Sources)
    (h : request.method = "OPTIONS") :
    r.handle request s = ⟨.ok (.empty 204 corsHeaders), s, [], [], []⟩ := by
  simp [handle, h]

theorem handle_unresolved (r : Router) {request : InboundRequest} (s : Sources) {fault : UrlFault}
    (h : request.method ≠ "OPTIONS") (hp : request.resolvePath = .error fault) :
    r.handle request s = ⟨.error fault, s, [], [], []⟩ := by
  simp [handle, h, hp]

theorem handle_resolved (r : Router) {request : InboundRequest} (s : Sources) {path : String}
    (h : request.method ≠ "OPTIONS") (hp : request.resolvePath = .ok path) :
    r.handle request s =
      let metadata := (r.metadata request s).1
      let dispatched := r.dispatched request path s
      let response := envelope metadata dispatched.reply
      let emitted := r.emit (trace metadata request path response dispatched.reply)
      ⟨.ok response, dispatched.sources, dispatched.logs ++ emitted.2, dispatched.calls,
        emitted.1⟩ := by
  simp only [handle, h, hp, ↓reduceIte]
  rfl

/-- The exits of the router for a request at a path, under a trace identifier and with some
sources. -/
inductive Exit (r : Router) (request : InboundRequest) (path traceId : String) (s : Sources) :
    Dispatched → Prop
  | health : Route.ofPath path = .health → Exit r request path traceId s ⟨r.healthReply, s, [], []⟩
  | contracts :
      Route.ofPath path = .contracts → Exit r request path traceId s ⟨contractsReply, s, [], []⟩
  | unknown :
      Route.ofPath path = .unknown → Exit r request path traceId s ⟨unknownReply path, s, [], []⟩
  | wrongMethod {name : String} :
      Route.ofPath path = .agent name → request.method ≠ "POST" →
      Exit r request path traceId s
        ⟨⟨405, errorPayload "Method not allowed. Use POST.", [routed]⟩, s, [], []⟩
  | rejected {name : String} {rejection : Rejection} :
      Route.ofPath path = .agent name → request.method = "POST" →
      Contract.rejection r.strict name request.body = .ok (some rejection) →
      Exit r request path traceId s
        ⟨failedReply 400 name rejection.message, s,
          [⟨.info, logger, s!"[{traceId}] Rejected {name} request: {rejection.message}"⟩], []⟩
  | failed {name : String} {e : Failure} :
      Route.ofPath path = .agent name → request.method = "POST" →
      Contract.rejection r.strict name request.body = .ok none →
      (Executor.run r.registry name request.body s).result = .error e →
      Exit r request path traceId s
        ⟨failedReply 500 name (failureText e),
          (Executor.run r.registry name request.body s).sources,
          (Executor.run r.registry name request.body s).logs ++
            [⟨.error, logger, s!"[{traceId}] Agent {name} failed"⟩],
          (Executor.run r.registry name request.body s).calls⟩
  | answered {name : String} {result : AgentResult} :
      Route.ofPath path = .agent name → request.method = "POST" →
      Contract.rejection r.strict name request.body = .ok none →
      (Executor.run r.registry name request.body s).result = .ok result →
      Exit r request path traceId s
        ⟨⟨200, [("data", result.data)],
            [routed, .completed result.layer (some result.durationMs)]⟩,
          (Executor.run r.registry name request.body s).sources,
          (Executor.run r.registry name request.body s).logs,
          (Executor.run r.registry name request.body s).calls⟩

theorem dispatch_exit (r : Router) {request : InboundRequest} {path name : String}
    (traceId : String) (s : Sources) (hp : Route.ofPath path = .agent name) :
    Exit r request path traceId s (r.dispatch name request traceId s) := by
  by_cases hm : request.method = "POST"
  · obtain ⟨found, hfound⟩ :=
      Contract.rejection_isOk (Route.mem_agentNames_of_ofPath hp) r.strict request.body
    cases found with
    | some rejection =>
      simp only [dispatch, hm, ne_eq, not_true_eq_false, ↓reduceIte, rejectionText?, hfound]
      exact .rejected hp hm hfound
    | none =>
      simp only [dispatch, hm, ne_eq, not_true_eq_false, ↓reduceIte, rejectionText?, hfound]
      cases hrun : (Executor.run r.registry name request.body s).result with
      | error e => exact .failed hp hm hfound hrun
      | ok result => exact .answered hp hm hfound hrun
  · simp only [dispatch, ne_eq, hm, not_false_eq_true, ↓reduceIte]
    exact .wrongMethod hp hm

/-- There are no other exits. -/
theorem reply_exit (r : Router) (request : InboundRequest) (path traceId : String) (s : Sources) :
    Exit r request path traceId s (r.reply path request traceId s) := by
  simp only [reply]
  cases hp : Route.ofPath path with
  | health => exact .health hp
  | contracts => exact .contracts hp
  | unknown => exact .unknown hp
  | agent name => exact dispatch_exit r traceId s hp

theorem dispatched_exit (r : Router) (request : InboundRequest) (path : String) (s : Sources) :
    Exit r request path (r.metadata request s).1.traceId (r.metadata request s).2
      (r.dispatched request path s) :=
  reply_exit r request path _ _

/-- The members that are added to the payload of a reply. -/
def closing (m : ExecutionMetadata) (reply : Reply) : List (String × Json) :=
  [("execution_metadata", m.toJson),
    ("layers_executed", .arr (reply.layers.map LayerEntry.toJson))]

namespace Exit

variable {r : Router} {request : InboundRequest} {path traceId : String} {s : Sources}
  {d : Dispatched}

/-- The keys of a payload are distinct, and none is that of the metadata or of the layers. -/
theorem keys_nodup (h : Exit r request path traceId s d) :
    (Assoc.keys d.reply.payload ++ ["execution_metadata", "layers_executed"]).Nodup := by
  cases h with
  | health | contracts | unknown | wrongMethod | rejected | failed | answered =>
    simp [Assoc.keys, healthReply, contractsReply, unknownReply, failedReply, errorPayload]

theorem not_mem_keys (h : Exit r request path traceId s d) :
    "execution_metadata" ∉ Assoc.keys d.reply.payload ∧
      "layers_executed" ∉ Assoc.keys d.reply.payload := by
  have hkeys := h.keys_nodup
  rw [List.nodup_append] at hkeys
  obtain ⟨-, -, hdisjoint⟩ := hkeys
  exact ⟨fun hm => hdisjoint _ hm _ (by simp) rfl, fun hm => hdisjoint _ hm _ (by simp) rfl⟩

/-- A body is the payload of its reply, then the metadata, then the layers. -/
theorem body (h : Exit r request path traceId s d) (m : ExecutionMetadata) :
    (envelope m d.reply).body = some (d.reply.payload ++ closing m d.reply) := by
  obtain ⟨hmetadata, hlayers⟩ := h.not_mem_keys
  have hlayers' : "layers_executed" ∉
      Assoc.keys (d.reply.payload ++ [("execution_metadata", m.toJson)]) := by
    simpa [Assoc.keys] using hlayers
  simp only [envelope, OutboundResponse.json, closing]
  rw [Assoc.put_of_not_mem hmetadata, Assoc.put_of_not_mem hlayers', List.append_assoc]
  rfl

theorem now (h : Exit r request path traceId s d) : d.sources.now = s.now := by
  cases h with
  | health | contracts | unknown | wrongMethod | rejected => rfl
  | failed | answered => simp

end Exit

/-- Handling a request leaves the time of day as it is. -/
theorem handle_now (r : Router) (request : InboundRequest) (s : Sources) :
    (r.handle request s).sources.now = s.now := by
  by_cases hm : request.method = "OPTIONS"
  · rw [handle_options r s hm]
  cases hp : request.resolvePath with
  | error fault => rw [handle_unresolved r s hm hp]
  | ok path =>
    rw [handle_resolved r s hm hp]
    exact (r.dispatched_exit request path s).now.trans (r.metadata_now request s)

/-- What holds of every request that is handled holds along every run. -/
theorem handleAll_forall₂ {P : InboundRequest → Handled → Prop} (r : Router)
    (h : ∀ request s, P request (r.handle request s)) (requests : List InboundRequest)
    (s : Sources) : List.Forall₂ P requests (r.handleAll requests s) := by
  induction requests generalizing s with
  | nil => exact .nil
  | cons request rest ih => exact .cons (h request s) (ih _)

end Router

end RegistryGateway
