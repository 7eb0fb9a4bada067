import RegistryGateway.Proofs.Exit
import Mathlib.Data.List.Induction
import Mathlib.Data.List.Nodup

/-! Generated identifiers.  Every identifier is drawn from the sources under a serial number of its
own, and the numbers only go up.  A request draws one for its execution, one for its trace unless
the caller gave that, and one for the agent that it bootstraps; what the responses along a run show
is therefore a part of what was drawn, in order, and nothing is shown twice. -/

namespace RegistryGateway

/-! ## What responses show -/

/-- A text in a part of a body. -/
def textIn? (members : List (String × Json)) (part key : String) : Option String :=
  (Assoc.get? members part).bind fun v => (v.member? key).bind InboundRequest.textOf?

namespace OutboundResponse

def traceId? (r : OutboundResponse) : Option String :=
  r.body.bind (textIn? · "execution_metadata" "trace_id")

def executionId? (r : OutboundResponse) : Option String :=
  r.body.bind (textIn? · "execution_metadata" "execution_id")

/-- The agent in the data of a response. -/
def agentId? (r : OutboundResponse) : Option String := r.body.bind (textIn? · "data" "agent_id")

end OutboundResponse

/-- The correlation id among some headers: of names that differ in letter case only, the last one
counts, and an empty value is none. -/
def givenTrace? (headers : List (String × String)) : Option String :=
  ((headers.reverse.find? fun h => lower h.1 = "x-correlation-id").map (·.2)).filter (· ≠ "")

/-- The correlation id that a request carries, if that is not empty. -/
def InboundRequest.correlationId? (request : InboundRequest) : Option String :=
  (request.header Router.correlationHeader).filter (· ≠ "")

theorem Assoc.get?_ofPairs {α : Type} (pairs : Assoc α) (key : String) :
    (Assoc.ofPairs pairs).get? key = (pairs.reverse.find? (·.1 = key)).map (·.2) := by
  induction pairs using List.reverseRecOn with
  | nil => rfl
  | append_singleton pairs p ih =>
    have hfold : Assoc.ofPairs (pairs ++ [p]) = (Assoc.ofPairs pairs).put p.1 p.2 :=
      List.foldl_append ..
    rw [hfold, get?_put, ih, List.reverse_append, List.reverse_singleton, List.singleton_append,
      List.find?_cons]
    by_cases h : p.1 = key <;> simp [h]

/-- A request carries the correlation id among the headers that it was made of. -/
theorem InboundRequest.correlationId?_make (method : String) (path : Option String) (url : String)
    (headers : List (String × String)) (body : Json) :
    (make method path url headers body).correlationId? = givenTrace? headers := by
  have hname : lower Router.correlationHeader = "x-correlation-id" := by decide
  rw [correlationId?, header, hname, givenTrace?]
  congr 1
  rw [make, normalHeaders, Assoc.get?_ofPairs, ← List.map_reverse, List.find?_map]
  rw [Option.map_map]
  rfl

namespace Router

/-- Whether a request goes to the built-in agent that hands out identifiers of agents. -/
def bootstraps (r : Router) (request : InboundRequest) : Bool :=
  match request.resolvePath, r.registry.get? "bootstrap" with
  | .ok path, some (.bootstrap _) => path = "/v1/registry/bootstrap"
  | _, _ => false

theorem bootstraps_iff (r : Router) (request : InboundRequest) :
    r.bootstraps request = true ↔ request.resolvePath = .ok "/v1/registry/bootstrap" ∧
      ∃ origin, r.registry.get? "bootstrap" = some (.bootstrap origin) := by
  rw [bootstraps]
  split
  next path origin hp hget => simp [hp, hget]
  next hother =>
    refine iff_of_false nofun ?_
    rintro ⟨hp, origin, hget⟩
    exact hother _ _ hp hget

/-- The generated identifiers that a response shows. -/
def generated (r : Router) (request : InboundRequest) (response : OutboundResponse) :
    List String :=
  (if request.correlationId?.isSome then [] else response.traceId?.toList) ++
    response.executionId?.toList ++
    (if r.bootstraps request then response.agentId?.toList else [])

/-- The generated identifiers that are shown when a request is handled. -/
def shown (r : Router) (request : InboundRequest) (handled : Handled) : List String :=
  match handled.outcome with
  | .ok response => r.generated request response
  | .error _ => []

/-- The generated identifiers that are shown along a run. -/
def shownAll (r : Router) (requests : List InboundRequest) (handled : List Handled) :
    List String :=
  (requests.zip handled).flatMap fun p => r.shown p.1 p.2

/-- A response to a request shows whose it is: under the correlation id of the request if that
carries one. -/
structure Identified (r : Router) (request : InboundRequest) (response : OutboundResponse) :
    Prop where
  trace : ∃ id, response.traceId? = some id ∧ id ≠ "" ∧
    ∀ given, request.correlationId? = some given → id = given
  execution : ∃ id, response.executionId? = some id ∧ id ≠ ""
  agent : r.bootstraps request = true → response.status = 200 →
    ∃ id, response.agentId? = some id ∧ id ≠ ""

end Router

/-! ## Identifiers -/

@[simp] theorem Sources.tick_issued (s : Sources) : s.tick.2.issued = s.issued := by
  simp only [tick]
  split <;> rfl

variable [Platform]

namespace Sources

/-- The identifiers that are drawn between two counts. -/
def drawn (first last : Nat) : List String :=
  (List.range' (first + 1) (last - first)).map Platform.identifier

theorem drawn_succ (n : Nat) : drawn n (n + 1) = [Platform.identifier (n + 1)] := by
  rw [drawn, Nat.add_sub_cancel_left]
  rfl

theorem drawn_append {first middle last : Nat} (hfirst : first ≤ middle) (hlast : middle ≤ last) :
    drawn first middle ++ drawn middle last = drawn first last := by
  have hstart : middle + 1 = first + 1 + (middle - first) := by omega
  have hlength : middle - first + (last - middle) = last - first := by omega
  rw [drawn, drawn, drawn, ← List.map_append, hstart, List.range'_append_1, hlength]

theorem drawn_nodup (first last : Nat) : (drawn first last).Nodup :=
  List.Nodup.map Platform.identifier_injective List.nodup_range'

/-- An identifier that is drawn after a count has a number above it. -/
theorem mem_drawn {first last : Nat} {id : String} (h : id ∈ drawn first last) :
    ∃ serial, first < serial ∧ id = Platform.identifier serial := by
  obtain ⟨serial, hserial, rfl⟩ := List.mem_map.mp h
  rw [List.mem_range'_1] at hserial
  exact ⟨serial, hserial.1, rfl⟩

end Sources

/-! ## What is drawn -/

namespace Agent

/-- What the bootstrap agent reports shows the identifier. -/
theorem bootstrap_shows {origin id : String} {agent template overrides data : Json}
    (h : bootstrap.report origin id agent template overrides = .ok data) :
    data.member? "agent_id" = some (.str id) := by
  obtain ⟨_, -, h⟩ := bind_eq_ok h
  obtain ⟨_, -, h⟩ := bind_eq_ok h
  obtain ⟨_, -, h⟩ := bind_eq_ok h
  cases h
  rfl

/-- The bootstrap agent draws one identifier for its answer, which shows it where it is written. -/
theorem bootstrap_draws {origin : String} {body data : Json} {s : Sources} {output : AgentOutput}
    (h : (bootstrap.answer origin body s).1 = .ok output) (hdata : output.data = .ok data) :
    data.member? "agent_id" = some (.str (Platform.identifier (s.issued + 1))) ∧
      (bootstrap.answer origin body s).2.issued = s.issued + 1 := by
  simp only [bootstrap.answer] at h ⊢
  split at h
  · cases h
  · obtain ⟨agent, -, h⟩ := bind_eq_ok h
    obtain ⟨template, -, h⟩ := bind_eq_ok h
    cases h
    exact ⟨bootstrap_shows hdata, rfl⟩

/-- An agent takes back no identifier. -/
theorem execute_issued (a : Agent) (body : Json) (s : Sources) :
    s.issued ≤ (a.execute body s).2.issued := by
  cases a with
  | bootstrap origin =>
    simp only [execute, bootstrap.answer]
    split
    · exact Nat.le_refl _
    · exact Nat.le_succ _
  | index | reputation | custom => exact Nat.le_refl _

end Agent

/-- Neither does a run. -/
theorem Executor.run_issued (registry : AgentRegistry) (name : String) (body : Json)
    (s : Sources) : s.issued ≤ (run registry name body s).sources.issued := by
  have hends := run_ends registry name body s
  have hexecute (agent : Agent) : s.issued ≤ (agent.execute body s.tick.2).2.issued :=
    (Nat.le_of_eq s.tick_issued.symm).trans (agent.execute_issued body s.tick.2)
  generalize run registry name body s = run at hends ⊢
  cases hends with
  | unregistered => exact Nat.le_refl _
  | failed => exact hexecute _
  | unmeasured | unwritten | backwards | answered =>
    rw [Sources.tick_issued]
    exact hexecute _

/-- A run of the bootstrap agent draws the identifier that its data show. -/
theorem Executor.run_bootstrap {registry : AgentRegistry} {name origin : String} {body : Json}
    {s : Sources} {result : AgentResult} (hget : registry.get? name = some (.bootstrap origin))
    (h : (run registry name body s).result = .ok result) :
    result.data.member? "agent_id" = some (.str (Platform.identifier (s.issued + 1))) ∧
      (run registry name body s).sources.issued = s.issued + 1 := by
  have hends := run_ends registry name body s
  generalize run registry name body s = run at h hends ⊢
  cases hends with
  | answered hagent houtput _ hdata =>
    cases hget.symm.trans hagent
    cases h
    have hdraws := Agent.bootstrap_draws houtput hdata
    rw [Sources.tick_issued] at hdraws ⊢
    exact hdraws
  | unregistered | failed | unmeasured | unwritten | backwards => cases h

namespace Router

/-- Without a correlation id, the metadata draw an identifier for the trace and one for the
execution. -/
theorem metadata_fresh (r : Router) {request : InboundRequest} (s : Sources)
    (h : request.correlationId? = none) :
    r.metadata request s =
      (⟨Platform.identifier (s.issued + 1), s.now.iso, r.service,
        Platform.identifier (s.issued + 2)⟩, { s with issued := s.issued + 2 }) := by
  simp only [metadata, ExecutionMetadata.create]
  cases hheader : request.header correlationHeader with
  | none => rfl
  | some id =>
    have hid : id = "" := by simpa [InboundRequest.correlationId?, hheader] using h
    simp only [hid, ↓reduceIte]
    rfl

/-- With one, they draw an identifier for the execution only. -/
theorem metadata_given (r : Router) {request : InboundRequest} (s : Sources) {id : String}
    (h : request.correlationId? = some id) :
    id ≠ "" ∧ r.metadata request s =
      (⟨id, s.now.iso, r.service, Platform.identifier (s.issued + 1)⟩,
        { s with issued := s.issued + 1 }) := by
  obtain ⟨hheader, hid⟩ := Option.filter_eq_some_iff.mp h
  have hid : id ≠ "" := by simpa using hid
  refine ⟨hid, ?_⟩
  simp only [metadata, ExecutionMetadata.create, hheader, hid, ↓reduceIte]
  rfl

/-- What the metadata draw, in order, and whose they are. -/
structure Draws (request : InboundRequest) (s : Sources) (drawn : ExecutionMetadata × Sources) :
    Prop where
  issued : s.issued ≤ drawn.2.issued
  generated :
    (if request.correlationId?.isSome then [] else [drawn.1.traceId]) ++ [drawn.1.executionId] =
      Sources.drawn s.issued drawn.2.issued
  given : ∀ given, request.correlationId? = some given → drawn.1.traceId = given
  trace : drawn.1.traceId ≠ ""
  execution : drawn.1.executionId ≠ ""

theorem metadata_draws (r : Router) (request : InboundRequest) (s : Sources) :
    Draws request s (r.metadata request s) := by
  cases h : request.correlationId? with
  | none =>
    rw [metadata_fresh r s h]
    refine ⟨Nat.le_add_right _ 2, ?_, by simp [h], Platform.identifier_ne_empty _,
      Platform.identifier_ne_empty _⟩
    have hdrawn := Sources.drawn_append (Nat.le_succ s.issued) (Nat.le_succ (s.issued + 1))
    rw [Sources.drawn_succ, Sources.drawn_succ] at hdrawn
    rw [h]
    exact hdrawn
  | some id =>
    obtain ⟨hid, hmetadata⟩ := metadata_given r s h
    rw [hmetadata]
    refine ⟨Nat.le_succ _, ?_, fun given hgiven => ?_, hid, Platform.identifier_ne_empty _⟩
    · rw [h]
      exact (Sources.drawn_succ s.issued).symm
    · exact Option.some.inj (h.symm.trans hgiven)

/-- What the way to a reply draws: an identifier for the agent that is bootstrapped, if any. -/
structure Exit.Draws (r : Router) (request : InboundRequest) (s : Sources) (d : Dispatched) :
    Prop where
  issued : s.issued ≤ d.sources.issued
  agent : r.bootstraps request = true → d.reply.status = 200 →
    textIn? d.reply.payload "data" "agent_id" = some (Platform.identifier (s.issued + 1)) ∧
      d.sources.issued = s.issued + 1
  silent : r.bootstraps request = true → d.reply.status ≠ 200 →
    textIn? d.reply.payload "data" "agent_id" = none

theorem Exit.draws {r : Router} {request : InboundRequest} {path traceId : String} {s : Sources}
    {d : Dispatched} (h : Exit r request path traceId s d) (hp : request.resolvePath = .ok path) :
    Exit.Draws r request s d := by
  have hroute : r.bootstraps request = true → Route.ofPath path = .agent "bootstrap" := by
    intro hbootstraps
    obtain ⟨hp', -⟩ := (r.bootstraps_iff request).mp hbootstraps
    cases hp.symm.trans hp'
    rfl
  cases h with
  | health hp' | contracts hp' =>
    refine ⟨Nat.le_refl _, fun hb => ?_, fun _ hstatus => absurd rfl hstatus⟩
    cases hp'.symm.trans (hroute hb)
  | unknown | wrongMethod | rejected =>
    exact ⟨Nat.le_refl _, fun _ => nofun, fun _ _ => rfl⟩
  | failed => exact ⟨Executor.run_issued _ _ _ _, fun _ => nofun, fun _ _ => rfl⟩
  | @answered name result hp' _ _ hrun =>
    refine ⟨Executor.run_issued _ _ _ _, fun hb _ => ?_, fun _ hstatus => absurd rfl hstatus⟩
    cases hp'.symm.trans (hroute hb)
    obtain ⟨-, origin, hget⟩ := (r.bootstraps_iff request).mp hb
    obtain ⟨hid, hissued⟩ := Executor.run_bootstrap hget hrun
    refine ⟨?_, hissued⟩
    simp [textIn?, Assoc.get?_cons, hid, InboundRequest.textOf?]

/-! ## What is shown -/

/-- A response shows the identifiers of its metadata, and that of an agent in its data. -/
theorem Exit.ids {r : Router} {request : InboundRequest} {path traceId : String} {s : Sources}
    {d : Dispatched} (h : Exit r request path traceId s d) (m : ExecutionMetadata) :
    (envelope m d.reply).traceId? = some m.traceId ∧
      (envelope m d.reply).executionId? = some m.executionId ∧
      (envelope m d.reply).agentId? = textIn? d.reply.payload "data" "agent_id" := by
  have hbody := h.body m
  have hmetadata : Assoc.get? (d.reply.payload ++ closing m d.reply) "execution_metadata" =
      some m.toJson := by
    rw [Assoc.get?_append, Assoc.get?_of_not_mem h.not_mem_keys.1]
    rfl
  have hdata : Assoc.get? (d.reply.payload ++ closing m d.reply) "data" =
      Assoc.get? d.reply.payload "data" := by
    rw [Assoc.get?_append]
    exact Option.or_none
  rw [OutboundResponse.traceId?, OutboundResponse.executionId?, OutboundResponse.agentId?, hbody]
  simp only [Option.bind_some, textIn?, hmetadata, hdata]
  exact ⟨rfl, rfl, trivial⟩

/-- What is shown when a request is handled is a part of what was drawn for it, in order. -/
theorem handle_shown (r : Router) (request : InboundRequest) (s : Sources) :
    s.issued ≤ (r.handle request s).sources.issued ∧
      (r.shown request (r.handle request s)).Sublist
        (Sources.drawn s.issued (r.handle request s).sources.issued) := by
  by_cases hm : request.method = "OPTIONS"
  · rw [handle_options r s hm]
    refine ⟨Nat.le_refl _, ?_⟩
    simp [shown, generated, OutboundResponse.empty, OutboundResponse.traceId?,
      OutboundResponse.executionId?, OutboundResponse.agentId?]
  cases hp : request.resolvePath with
  | error fault =>
    rw [handle_unresolved r s hm hp]
    exact ⟨Nat.le_refl _, List.nil_sublist _⟩
  | ok path =>
    have hexit := r.dispatched_exit request path s
    have hmetadata := r.metadata_draws request s
    have hreply := hexit.draws hp
    obtain ⟨htrace, hexecution, hagent⟩ := hexit.ids (r.metadata request s).1
    rw [handle_resolved r s hm hp]
    refine ⟨hmetadata.issued.trans hreply.issued, ?_⟩
    rw [← Sources.drawn_append hmetadata.issued hreply.issued, ← hmetadata.generated]
    simp only [shown, generated, htrace, hexecution, hagent, Option.toList_some]
    refine List.Sublist.append (.refl _) ?_
    split
    next hb =>
      by_cases hstatus : (r.dispatched request path s).reply.status = 200
      · obtain ⟨hid, hissued⟩ := hreply.agent hb hstatus
        rw [hid, hissued, Sources.drawn_succ]
        exact .refl _
      -- An agent that fails may have drawn an identifier that no response shows.
      · rw [hreply.silent hb hstatus]
        exact List.nil_sublist _
    · exact List.nil_sublist _

/-- A response to a request other than OPTIONS is identified. -/
theorem handle_identified (r : Router) (request : InboundRequest) (s : Sources) :
    ∀ response, (r.handle request s).outcome = .ok response → request.method ≠ "OPTIONS" →
      r.Identified request response := by
  intro response hresponse hm
  cases hp : request.resolvePath with
  | error fault =>
    rw [handle_unresolved r s hm hp] at hresponse
    cases hresponse
  | ok path =>
    have hexit := r.dispatched_exit request path s
    have hmetadata := r.metadata_draws request s
    have hreply := hexit.draws hp
    obtain ⟨htrace, hexecution, hagent⟩ := hexit.ids (r.metadata request s).1
    rw [handle_resolved r s hm hp] at hresponse
    cases hresponse
    refine ⟨⟨_, htrace, hmetadata.trace, hmetadata.given⟩, ⟨_, hexecution, hmetadata.execution⟩,
      fun hb hstatus => ?_⟩
    obtain ⟨hid, -⟩ := hreply.agent hb hstatus
    exact ⟨_, hagent.trans hid, Platform.identifier_ne_empty _⟩

/-- What is shown along a run is a part of what was drawn for it, in order. -/
theorem handleAll_shown (r : Router) (requests : List InboundRequest) (s : Sources) :
    ∃ last, s.issued ≤ last ∧
      (r.shownAll requests (r.handleAll requests s)).Sublist (Sources.drawn s.issued last) := by
  induction requests generalizing s with
  | nil => exact ⟨s.issued, Nat.le_refl _, List.nil_sublist _⟩
  | cons request rest ih =>
    obtain ⟨hissued, hshown⟩ := r.handle_shown request s
    obtain ⟨last, hlast, hrest⟩ := ih (r.handle request s).sources
    refine ⟨last, hissued.trans hlast, ?_⟩
    rw [← Sources.drawn_append hissued hlast]
    exact hshown.append hrest

/-- No generated identifier is shown twice along a run, and every one is newly drawn.  Every
response to a request other than OPTIONS is identified, under the correlation id that its request
carries, if any: that of the headers that the request was made of. -/
theorem handleAll_identifies (r : Router) (requests : List InboundRequest) (s : Sources) :
    (r.shownAll requests (r.handleAll requests s)).Nodup ∧
      (∀ id ∈ r.shownAll requests (r.handleAll requests s),
        ∃ serial, s.issued < serial ∧ id = Platform.identifier serial) ∧
      List.Forall₂
        (fun request handled => ∀ response, handled.outcome = .ok response →
          request.method ≠ "OPTIONS" → r.Identified request response)
        requests (r.handleAll requests s) ∧
      ∀ method path url headers body,
        (InboundRequest.make method path url headers body).correlationId? =
          givenTrace? headers := by
  obtain ⟨last, -, hshown⟩ := r.handleAll_shown requests s
  exact ⟨(Sources.drawn_nodup _ _).sublist hshown,
    fun id hid => Sources.mem_drawn (hshown.subset hid),
    handleAll_forall₂ r r.handle_identified requests s, InboundRequest.correlationId?_make⟩

end Router

end RegistryGateway
