import RegistryGateway.Proofs.Dispatch

/-! Strict validation beside structural validation.  Two routers that differ in nothing else handle
a request in the same way, unless the body has the keys of its contract and not the types: then the
strict one refuses it, naming a field, and calls no agent, and the other one does not refuse it. -/

namespace RegistryGateway

/-- The message of a misfit says that a field is invalid. -/
theorem Rejection.message_invalid (misfit : Misfit) :
    ∃ problem, (Rejection.invalid misfit).message = "Invalid field: " ++ problem := by
  let location := if misfit.location = "" then "body" else misfit.location
  refine ⟨location ++ " (" ++ misfit.fault.message ++ ")", ?_⟩
  show "Invalid field: " ++ location ++ " (" ++ misfit.fault.message ++ ")" = _
  simp only [String.append_assoc]

namespace Router

/-- The router with strict or with structural validation. -/
def validating (r : Router) (strict : Bool) : Router := { r with strict := strict }

/-- A request that is refused for a field, without a call of any agent. -/
structure RefusesField (handled : Handled) : Prop where
  calls : handled.calls = []
  refused : ∃ response problem, handled.outcome = .ok response ∧
    Answers response 400 [("error", .str ("Invalid field: " ++ problem))]

/-- A request that is answered, and not with a refusal. -/
def NotRefused (handled : Handled) : Prop :=
  ∃ response, handled.outcome = .ok response ∧ response.status ≠ 400

theorem RefusesField.not_notRefused {handled : Handled} (h : RefusesField handled) :
    ¬NotRefused handled := by
  obtain ⟨-, response, problem, hresponse, hstatus, -⟩ := h
  rintro ⟨response', hresponse', hstatus'⟩
  rw [hresponse] at hresponse'
  cases hresponse'
  exact hstatus' hstatus

end Router

variable [Platform]

namespace Contract

theorem structuralRejection_isOk {agent : String} (h : agent ∈ agentNames) (body : Json) :
    ∃ found, structuralRejection agent body = .ok found := rejection_isOk h false body

/-- A body that has a structural problem is rejected for it in either mode; the types are looked at
only when there is none. -/
theorem strictRejection_eq {agent : String} {body : Json} {found : Option Rejection}
    (h : structuralRejection agent body = .ok found) :
    strictRejection agent body = .ok (found.or (typeRejection agent body)) := by
  cases found with
  | none => simp only [strictRejection, h, Option.none_or]
  | some rejection => simp only [strictRejection, h, Option.some_or]

/-- A problem of types is a misfit. -/
theorem typeRejection_eq_some {agent : String} {body : Json} {rejection : Rejection}
    (h : typeRejection agent body = some rejection) : ∃ misfit, rejection = .invalid misfit := by
  rw [typeRejection] at h
  split at h
  · cases h
  · split at h
    · cases h
    · obtain ⟨misfit, -, hmisfit⟩ := Option.map_eq_some_iff.mp h
      exact ⟨misfit, hmisfit.symm⟩

end Contract

namespace Router

/-- A request that gets to the types of its body, which are not those of the contract. -/
structure Mistyped (request : InboundRequest) (path name : String) (misfit : Misfit) : Prop where
  method : request.method = "POST"
  resolved : request.resolvePath = .ok path
  route : Route.ofPath path = .agent name
  keys : Contract.structuralRejection name request.body = .ok none
  types : Contract.typeRejection name request.body = some (.invalid misfit)

/-- What a strict router does with a request beside what a structural one does. -/
structure Tightens (request : InboundRequest) (strict loose : Handled) : Prop where
  /-- Both do the same, or the strict one refuses what the other one does not. -/
  same_or_refuses : strict = loose ∨ RefusesField strict ∧ NotRefused loose
  /-- They do the same exactly when there is no misfit to refuse. -/
  same_iff : strict = loose ↔ ∀ path name misfit, ¬Mistyped request path name misfit
  /-- What the strict one answers and does not refuse is what the other one answers. -/
  accepted : ∀ response, strict.outcome = .ok response → response.status ≠ 400 →
    loose.outcome = .ok response
  /-- What the other one refuses, the strict one refuses in the same way. -/
  rejected : ∀ response, loose.outcome = .ok response → response.status = 400 →
    strict.outcome = .ok response
  /-- A request without a path fails with both. -/
  fault : ∀ fault, strict.outcome = .error fault ↔ loose.outcome = .error fault

theorem Mistyped.not_options {request : InboundRequest} {path name : String} {misfit : Misfit}
    (h : Mistyped request path name misfit) : request.method ≠ "OPTIONS" := by
  rw [h.method]
  decide

namespace Exit

variable {r : Router} {request : InboundRequest} {path name traceId : String} {s : Sources}
  {d : Dispatched} {rejection : Rejection}

/-- A body that its contract keeps from an agent is refused with what is wrong with it. -/
theorem of_rejects (h : Exit r request path traceId s d) (hroute : Route.ofPath path = .agent name)
    (hrejects : r.Rejects request name rejection) :
    d.reply = failedReply 400 name rejection.message ∧ d.calls = [] := by
  cases h with
  | health hp | contracts hp | unknown hp => cases hp.symm.trans hroute
  | wrongMethod _ hm => exact absurd hrejects.1 hm
  | rejected hp _ hfound =>
    cases hp.symm.trans hroute
    cases hfound.symm.trans hrejects.2
    exact ⟨rfl, rfl⟩
  | failed hp hm hfound _ | answered hp hm hfound _ =>
    cases hp.symm.trans hroute
    exact absurd ⟨hm, hfound⟩ (not_admits_of_rejects hrejects)

/-- A body that gets as far as the registry is not refused any more. -/
theorem status_ne_of_admits (h : Exit r request path traceId s d)
    (hroute : Route.ofPath path = .agent name) (hadmits : r.Admits request name) :
    d.reply.status ≠ 400 := by
  cases h with
  | health hp | contracts hp | unknown hp => cases hp.symm.trans hroute
  | wrongMethod _ hm => exact absurd hadmits.1 hm
  | rejected hp hm hfound =>
    cases hp.symm.trans hroute
    exact absurd hadmits (not_admits_of_rejects ⟨hm, hfound⟩)
  | failed | answered => simp [failedReply]

end Exit

section

variable (r : Router) {request : InboundRequest} {path name : String} {misfit : Misfit}

/-- A dispatch depends on the mode through the rejection of the body only. -/
theorem dispatch_validating (traceId : String) (s : Sources)
    (h : request.method = "POST" →
      Contract.strictRejection name request.body = Contract.structuralRejection name request.body) :
    (r.validating true).dispatch name request traceId s =
      (r.validating false).dispatch name request traceId s := by
  by_cases hm : request.method = "POST"
  · have htext : rejectionText? true name request.body = rejectionText? false name request.body := by
      simp only [rejectionText?, Contract.rejection, ↓reduceIte, Bool.false_eq_true, h hm]
    simp only [dispatch, validating, htext]
  · simp only [dispatch, ne_eq, hm, not_false_eq_true, ↓reduceIte]

/-- A request without a misfit gets the same reply in either mode. -/
theorem reply_validating (traceId : String) (s : Sources) (hp : request.resolvePath = .ok path)
    (h : ∀ path name misfit, ¬Mistyped request path name misfit) :
    (r.validating true).reply path request traceId s =
      (r.validating false).reply path request traceId s := by
  cases hroute : Route.ofPath path with
  | health => simp only [reply, hroute]; rfl
  | contracts | unknown => simp only [reply, hroute]
  | agent name =>
    simp only [reply, hroute]
    refine r.dispatch_validating traceId s fun hm => ?_
    obtain ⟨found, hfound⟩ :=
      Contract.structuralRejection_isOk (Route.mem_agentNames_of_ofPath hroute) request.body
    rw [Contract.strictRejection_eq hfound, hfound]
    cases found with
    | some rejection => rfl
    | none =>
      cases htypes : Contract.typeRejection name request.body with
      | none => rfl
      | some rejection =>
        obtain ⟨misfit, rfl⟩ := Contract.typeRejection_eq_some htypes
        exact absurd ⟨hm, hp, hroute, hfound, htypes⟩ (h path name misfit)

variable (s : Sources)

/-- Such a request is handled in the same way throughout. -/
theorem handle_validating (h : ∀ path name misfit, ¬Mistyped request path name misfit) :
    (r.validating true).handle request s = (r.validating false).handle request s := by
  by_cases hm : request.method = "OPTIONS"
  · rw [handle_options _ s hm, handle_options _ s hm]
  cases hp : request.resolvePath with
  | error fault => rw [handle_unresolved _ s hm hp, handle_unresolved _ s hm hp]
  | ok path =>
    have hdispatched : (r.validating true).dispatched request path s =
        (r.validating false).dispatched request path s := r.reply_validating _ _ hp h
    rw [handle_resolved _ s hm hp, handle_resolved _ s hm hp, hdispatched]
    rfl

/-- Strict validation refuses a mistyped request. -/
theorem handle_strict_refuses (h : Mistyped request path name misfit) :
    RefusesField ((r.validating true).handle request s) := by
  have hrejects : (r.validating true).Rejects request name (.invalid misfit) := by
    refine ⟨h.method, ?_⟩
    show Contract.strictRejection name request.body = _
    rw [Contract.strictRejection_eq h.keys, Option.none_or, h.types]
  have hexit := (r.validating true).dispatched_exit request path s
  obtain ⟨hreply, hcalls⟩ := hexit.of_rejects h.route hrejects
  obtain ⟨problem, hproblem⟩ := Rejection.message_invalid misfit
  have hstatus : ((r.validating true).dispatched request path s).reply.status = 400 := by
    rw [hreply]
    rfl
  have hpayload : ((r.validating true).dispatched request path s).reply.payload =
      [("error", .str ("Invalid field: " ++ problem))] := by
    rw [hreply, ← hproblem]
    rfl
  rw [handle_resolved _ s h.not_options h.resolved]
  exact ⟨hcalls, _, problem, rfl, hstatus, _, _, hpayload ▸ hexit.body _⟩

/-- Structural validation does not. -/
theorem handle_loose_not_refused (h : Mistyped request path name misfit) :
    NotRefused ((r.validating false).handle request s) := by
  have hexit := (r.validating false).dispatched_exit request path s
  rw [handle_resolved _ s h.not_options h.resolved]
  exact ⟨_, rfl, hexit.status_ne_of_admits h.route ⟨h.method, h.keys⟩⟩

/-- Strict validation refuses some requests for a field that structural validation does not refuse,
and makes no difference to any other. -/
theorem handle_tightens (request : InboundRequest) :
    Tightens request ((r.validating true).handle request s)
      ((r.validating false).handle request s) := by
  by_cases h : ∀ path name misfit, ¬Mistyped request path name misfit
  · have hsame := r.handle_validating s h
    rw [hsame]
    exact ⟨.inl rfl, iff_of_true rfl h, fun _ hr _ => hr, fun _ hr _ => hr, fun _ => .rfl⟩
  · have hmistyped := h
    push Not at hmistyped
    obtain ⟨path, name, misfit, hmistyped⟩ := hmistyped
    have hstrict := r.handle_strict_refuses s hmistyped
    have hloose := r.handle_loose_not_refused s hmistyped
    refine ⟨.inr ⟨hstrict, hloose⟩, iff_of_false (fun hsame => ?_) h, fun response hr hs => ?_,
      fun response hr hs => ?_, fun fault => ?_⟩
    · exact hstrict.not_notRefused (hsame ▸ hloose)
    · exact absurd ⟨response, hr, hs⟩ hstrict.not_notRefused
    · obtain ⟨response', hr', hs'⟩ := hloose
      rw [hr'] at hr
      cases hr
      exact absurd hs hs'
    · obtain ⟨-, response, problem, hr, -⟩ := hstrict
      obtain ⟨response', hr', -⟩ := hloose
      simp [hr, hr']

end

end Router

end RegistryGateway
