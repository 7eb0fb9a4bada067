import RegistryGateway.Client.Session

/-! What the steps of a session change.  An operation changes the last execution at most, and no
step changes how the session was configured. -/

namespace RegistryGateway.Client.Session

open Url (Target)

/-- A fresh session has the context of its configuration and remembers nothing. -/
theorem start_eq_ok_iff (config : Config) (boundary : List Char) (s : Session) :
    start config boundary = .ok s ↔
      ∃ base, (Target.parse config.baseUrl.toList).bind Target.asBase = .ok base ∧
        Headers.asciiFault? config.defaults = none ∧
        s = ⟨config, base, boundary, config.context, none, false⟩ := by
  rw [start]
  cases (Target.parse config.baseUrl.toList).bind Target.asBase with
  | error e => simp
  | ok base => cases Headers.asciiFault? config.defaults <;> simp [eq_comm]

/-- A request is sent when its target and its content can be made, the session is open and the
context can be written in headers. -/
theorem request_eq_ok_iff (s : Session) (op : Operation) (request : Request) :
    s.request op = .ok request ↔ ∃ t contentType body, s.target op = .ok t ∧
      encodeContent s.formBoundary op.content = .ok (contentType, body) ∧ s.closed = false ∧
      Headers.asciiFault? s.contextHeaders = none ∧
      request = ⟨op.httpMethod, t, (s.ownHeaders t contentType).update s.contextHeaders, body,
        s.config.timeout⟩ := by
  constructor
  · intro h
    unfold Session.request at h
    split at h
    · cases h
    next t ht =>
    split at h
    · cases h
    next contentType body hcontent =>
    split at h
    · cases h
    next hclosed =>
    split at h
    · cases h
    next hascii =>
    exact ⟨t, contentType, body, ht, hcontent, by simpa using hclosed, hascii,
      (Except.ok.inj h).symm⟩
  · rintro ⟨t, contentType, body, ht, hcontent, hclosed, hascii, rfl⟩
    simp [Session.request, ht, hcontent, hclosed, hascii]

theorem target_of_request {s : Session} {op : Operation} {request : Request}
    (h : s.request op = .ok request) : s.target op = .ok request.target := by
  obtain ⟨t, _, _, ht, _, _, _, rfl⟩ := (request_eq_ok_iff s op request).mp h
  exact ht

variable [Platform]

theorem mem_requests_iff (s : Session) (op : Operation) (exchange : Exchange) (request : Request) :
    request ∈ (s.perform op exchange).requests ↔ s.request op = .ok request := by
  cases h : s.request op <;> simp [perform, h, eq_comm]

/-! ## Steps -/

theorem remember_session (s : Session) (payload : Json) :
    ∃ last, (s.remember payload).1 = { s with lastExecution := last } := by
  unfold remember
  split
  · exact ⟨s.lastExecution, rfl⟩
  next record _ => exact ⟨some record, rfl⟩
  · exact ⟨s.lastExecution, rfl⟩

theorem accept_session (s : Session) (expected : Expected) (r : Reply) :
    ∃ last, (s.accept expected r).1 = { s with lastExecution := last } := by
  unfold accept
  split
  · exact ⟨s.lastExecution, rfl⟩
  · exact ⟨s.lastExecution, rfl⟩
  · split
    · exact ⟨s.lastExecution, rfl⟩
    · split
      · exact ⟨s.lastExecution, rfl⟩
      · exact remember_session s _

theorem receive_session (s : Session) (op : Operation) (request : Request) (exchange : Exchange) :
    ∃ last, (s.receive op request exchange).1 = { s with lastExecution := last } := by
  cases exchange with
  | failure kind message => exact ⟨s.lastExecution, rfl⟩
  | reply r =>
    rw [receive]
    split
    · exact ⟨s.lastExecution, rfl⟩
    · split
      · split <;> exact ⟨s.lastExecution, rfl⟩
      · exact accept_session s op.expected r

/-- An operation changes the last execution at most. -/
theorem perform_session (s : Session) (op : Operation) (exchange : Exchange) :
    ∃ last, (s.perform op exchange).session = { s with lastExecution := last } := by
  unfold perform
  split
  · exact ⟨s.lastExecution, rfl⟩
  next request _ => exact receive_session s op request _

/-- A step changes the context, the last execution and whether the session is closed at most. -/
theorem step_session (s : Session) (step : Step) :
    ∃ context last closed, (s.step step).session =
      { s with context := context, lastExecution := last, closed := closed } := by
  cases step with
  | call op exchange =>
    obtain ⟨last, hlast⟩ := perform_session s op exchange
    exact ⟨s.context, last, s.closed, hlast⟩
  | setContext context => exact ⟨context, s.lastExecution, s.closed, rfl⟩
  | showContext => exact ⟨s.context, s.lastExecution, s.closed, rfl⟩
  | close => exact ⟨s.context, s.lastExecution, true, rfl⟩

theorem step_config (s : Session) (step : Step) : (s.step step).session.config = s.config := by
  obtain ⟨context, last, closed, h⟩ := step_session s step
  rw [h]

theorem step_base (s : Session) (step : Step) : (s.step step).session.base = s.base := by
  obtain ⟨context, last, closed, h⟩ := step_session s step
  rw [h]

/-! ## Runs -/

/-- What no step changes, no run changes. -/
theorem after_of_step {α : Type} {f : Session → α}
    (h : ∀ s step, f (s.step step).session = f s) (s : Session) (steps : List Step) :
    f (s.after steps) = f s := by
  induction steps generalizing s with
  | nil => rfl
  | cons step rest ih => exact (ih (s.step step).session).trans (h s step)

theorem after_base (s : Session) (steps : List Step) : (s.after steps).base = s.base :=
  after_of_step step_base s steps

theorem after_config (s : Session) (steps : List Step) : (s.after steps).config = s.config :=
  after_of_step step_config s steps

end RegistryGateway.Client.Session
