import RegistryGateway.Platform.Standard
import RegistryGateway.Proofs.Exit

/-! The decisions of the router.  The path decides first, then the method, then the contract of the
body, then the registry, and last the agent.  `Decision` is the table of what is answered in each
case, and `Called` says which agent is called. -/

namespace RegistryGateway

/-- A response with a status and a body of some members, then the metadata, then the layers. -/
def Answers (response : OutboundResponse) (status : Int) (payload : List (String × Json)) : Prop :=
  response.status = status ∧ ∃ metadata layers,
    response.body =
      some (payload ++ [("execution_metadata", metadata), ("layers_executed", layers)])

/-- A response answers in one way only. -/
theorem Answers.iff {response : OutboundResponse} {status : Int} {payload : List (String × Json)}
    (h : Answers response status payload) (status' : Int) (payload' : List (String × Json)) :
    Answers response status' payload' ↔ status = status' ∧ payload = payload' := by
  constructor
  · obtain ⟨hstatus, metadata, layers, hbody⟩ := h
    rintro ⟨hstatus', metadata', layers', hbody'⟩
    refine ⟨hstatus.symm.trans hstatus', ?_⟩
    have happend := Option.some.inj (hbody.symm.trans hbody')
    exact (List.append_inj' happend rfl).1
  · rintro ⟨rfl, rfl⟩
    exact h

namespace Router

section

variable [Platform]

/-- The sources that an agent is called with: before, the metadata are drawn and the clock is
read. -/
def callSources (r : Router) (request : InboundRequest) (s : Sources) : Sources :=
  (r.metadata request s).2.tick.2

/-- A body is kept from an agent by its contract. -/
def Rejects (r : Router) (request : InboundRequest) (name : String) (rejection : Rejection) :
    Prop :=
  request.method = "POST" ∧
    Contract.rejection r.strict name request.body = .ok (some rejection)

/-- A body gets as far as the registry. -/
def Admits (r : Router) (request : InboundRequest) (name : String) : Prop :=
  request.method = "POST" ∧ Contract.rejection r.strict name request.body = .ok none

/-- What is answered on the route of an agent, which is called with some sources. -/
structure AgentDecision (r : Router) (request : InboundRequest) (name : String) (s : Sources)
    (response : OutboundResponse) : Prop where
  wrongMethod : response.status = 405 ↔ request.method ≠ "POST"
  rejected : response.status = 400 ↔ ∃ rejection, r.Rejects request name rejection
  rejection : ∀ message, Answers response 400 [("error", .str message)] ↔
    ∃ rejection, r.Rejects request name rejection ∧ rejection.message = message
  failed : response.status = 500 ↔
    r.Admits request name ∧ ∃ e, r.registry.Fails name request.body s e
  failure : ∀ message, Answers response 500 [("error", .str message)] ↔
    r.Admits request name ∧ ∃ e, r.registry.Fails name request.body s e ∧
      (if e.message = "" then "Internal agent error" else e.message) = message
  answered : response.status = 200 ↔
    r.Admits request name ∧ ∃ data, r.registry.Gives name request.body s data
  data : ∀ data, Answers response 200 [("data", data)] ↔
    r.Admits request name ∧ r.registry.Gives name request.body s data

namespace AgentDecision

variable {r : Router} {request : InboundRequest} {name : String} {s : Sources}
  {response : OutboundResponse}

theorem ofWrongMethod (hm : request.method ≠ "POST") {payload : List (String × Json)}
    (h : Answers response 405 payload) : AgentDecision r request name s response := by
  constructor <;> simp [h.1, h.iff, Rejects, Admits, hm]

theorem ofRejected {rejection : Rejection} (hr : r.Rejects request name rejection)
    (h : Answers response 400 [("error", .str rejection.message)]) :
    AgentDecision r request name s response := by
  obtain ⟨hm, hfound⟩ := hr
  constructor <;> simp [h.1, h.iff, Rejects, Admits, hm, hfound]

theorem ofFailed {e : Failure} (hadmits : r.Admits request name)
    (he : r.registry.Fails name request.body s e)
    (h : Answers response 500 [("error", .str (failureText e))]) :
    AgentDecision r request name s response := by
  obtain ⟨hm, hfound⟩ := hadmits
  constructor <;>
    simp [h.1, h.iff, Rejects, Admits, hm, hfound, he.iff, he.not_gives, failureText]

theorem ofAnswered {data : Json} (hadmits : r.Admits request name)
    (hdata : r.registry.Gives name request.body s data)
    (h : Answers response 200 [("data", data)]) : AgentDecision r request name s response := by
  obtain ⟨hm, hfound⟩ := hadmits
  have hfails (e : Failure) : ¬r.registry.Fails name request.body s e :=
    fun he => he.not_gives hdata
  constructor <;> simp [h.1, h.iff, Rejects, Admits, hm, hfound, hdata.iff, hfails]

end AgentDecision

/-- What is answered to a request at a path. -/
structure Decision (r : Router) (request : InboundRequest) (path : String) (s : Sources)
    (response : OutboundResponse) : Prop where
  health :
    Answers response 200 [("status", .str "healthy"), ("agents", .strings r.registry.names)] ↔
      path = "/health" ∨ path = "/"
  contracts : Answers response 200 [("contracts", Contract.tableJson)] ↔ path = "/contracts"
  unknown : response.status = 404 ↔
    path ∉ ["/", "/health", "/contracts", "/v1/registry/index", "/v1/registry/reputation",
      "/v1/registry/bootstrap"]
  agent : ∀ name,
    (path, name) ∈ [("/v1/registry/index", "index"), ("/v1/registry/reputation", "reputation"),
      ("/v1/registry/bootstrap", "bootstrap")] →
    AgentDecision r request name s response

/-- The calls for a request at a path: at most one, of the agent that is registered for the route,
on the body, if it is admitted. -/
structure Called (r : Router) (request : InboundRequest) (path : String) (calls : List AgentCall) :
    Prop where
  once : calls.length ≤ 1
  mem_iff : ∀ call, call ∈ calls ↔ ∃ name,
    (path, name) ∈ [("/v1/registry/index", "index"), ("/v1/registry/reputation", "reputation"),
      ("/v1/registry/bootstrap", "bootstrap")] ∧
    r.Admits request name ∧ r.registry.get? name = some call.agent ∧ call.body = request.body

namespace Exit

variable {r : Router} {request : InboundRequest} {path traceId name : String} {s : Sources}
  {d : Dispatched} {response : OutboundResponse}

theorem agentDecision (h : Exit r request path traceId s d) (hp : Route.ofPath path = .agent name)
    (hs : s.Steady) (ha : Answers response d.reply.status d.reply.payload) :
    AgentDecision r request name s.tick.2 response := by
  cases h with
  | health hp' | contracts hp' | unknown hp' => cases hp.symm.trans hp'
  | wrongMethod _ hm => exact .ofWrongMethod hm ha
  | rejected hp' hm hfound =>
    cases hp.symm.trans hp'
    exact .ofRejected ⟨hm, hfound⟩ ha
  | failed hp' hm hfound hrun =>
    cases hp.symm.trans hp'
    exact .ofFailed ⟨hm, hfound⟩ ((Executor.run_error_iff hs _).mp hrun) ha
  | answered hp' hm hfound hrun =>
    cases hp.symm.trans hp'
    exact .ofAnswered ⟨hm, hfound⟩ ((Executor.run_ok_iff hs _).mp ⟨_, hrun, rfl⟩) ha

/-- The answers on the routes that lead to no agent. -/
theorem decision_of_route (h : Exit r request path traceId s d)
    (ha : Answers response d.reply.status d.reply.payload) :
    (Answers response 200 [("status", .str "healthy"), ("agents", .strings r.registry.names)] ↔
      Route.ofPath path = .health) ∧
    (Answers response 200 [("contracts", Contract.tableJson)] ↔ Route.ofPath path = .contracts) ∧
    (response.status = 404 ↔ Route.ofPath path = .unknown) := by
  rw [ha.iff, ha.iff, ha.1]
  cases h with
  | health hp => simp [hp, healthReply]
  | contracts hp => simp [hp, contractsReply]
  | unknown hp => simp [hp, unknownReply]
  | wrongMethod hp | rejected hp | failed hp | answered hp => simp [hp, failedReply]

theorem decision (h : Exit r request path traceId s d)
    (hs : s.Steady) (ha : Answers response d.reply.status d.reply.payload) :
    Decision r request path s.tick.2 response := by
  obtain ⟨hhealth, hcontracts, hunknown⟩ := h.decision_of_route ha
  refine ⟨?_, ?_, ?_, fun name hname => ?_⟩
  · rw [hhealth, Route.ofPath_eq_health_iff]
  · rw [hcontracts, Route.ofPath_eq_contracts_iff]
  · rw [hunknown, Route.ofPath_eq_unknown_iff]
    rfl
  · exact h.agentDecision ((Route.ofPath_eq_agent_iff path name).mpr hname) hs ha

theorem not_admits_of_rejects {rejection : Rejection} (h : r.Rejects request name rejection) :
    ¬r.Admits request name := by
  rintro ⟨-, hfound⟩
  have := h.2.symm.trans hfound
  cases this

/-- Where nothing is admitted, nothing is called. -/
theorem called_nil (h : ∀ name, Route.ofPath path = .agent name → ¬r.Admits request name) :
    Called r request path [] where
  once := Nat.zero_le 1
  mem_iff call := by
    refine iff_of_false List.not_mem_nil ?_
    rintro ⟨name, hname, hadmits, -⟩
    exact h name ((Route.ofPath_eq_agent_iff path name).mpr hname) hadmits

/-- Where a body is admitted, the run does the calling. -/
theorem called_run (hp : Route.ofPath path = .agent name) (hadmits : r.Admits request name) :
    Called r request path (Executor.run r.registry name request.body s).calls where
  once := by
    rw [Executor.run_calls]
    cases r.registry.get? name <;> simp
  mem_iff call := by
    rw [Executor.run_calls, Option.mem_toList, Option.map_eq_some_iff]
    constructor
    · rintro ⟨agent, hget, rfl⟩
      exact ⟨name, (Route.ofPath_eq_agent_iff path name).mp hp, hadmits, hget, rfl⟩
    · rintro ⟨name', hname', -, hget, hbody⟩
      cases hp.symm.trans ((Route.ofPath_eq_agent_iff path name').mpr hname')
      exact ⟨call.agent, hget, by rw [← hbody]⟩

theorem called (h : Exit r request path traceId s d) : Called r request path d.calls := by
  cases h with
  | health hp | contracts hp | unknown hp =>
    refine called_nil fun name hp' => ?_
    cases hp.symm.trans hp'
  | wrongMethod _ hm => exact called_nil fun _ _ hadmits => hm hadmits.1
  | rejected hp hm hfound =>
    refine called_nil fun name hp' => ?_
    cases hp.symm.trans hp'
    exact not_admits_of_rejects ⟨hm, hfound⟩
  | failed hp hm hfound _ | answered hp hm hfound _ => exact called_run hp ⟨hm, hfound⟩

end Exit

end

/-- Empty lists inside one another. -/
def nested : Nat → Json
  | 0 => .arr []
  | n + 1 => .arr [nested n]

/-- A request to bootstrap an agent with such overrides. -/
def overriding (depth : Nat) : InboundRequest :=
  ⟨"POST", some "/v1/registry/bootstrap", "/", [],
    .obj [("template_id", .str "t"), ("agent_name", .str "a"),
      ("config_overrides", .obj [("x", nested depth)])]⟩

end Router

end RegistryGateway
