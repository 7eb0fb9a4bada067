import RegistryGateway.Client.Session
import RegistryGateway.Platform.Standard

/-! What an operation makes of a reply.  A reply with the status of an error is refused: the
operation fails with that status, or with the error of the platform for want of one, and the session
stays as it was.  Every other reply, informational and redirecting ones among them, is taken for an
answer unless it points to a place that is none: a deletion succeeds, a download returns the body,
and any other operation reads it. -/

namespace RegistryGateway.Client

/-- A reply with a status of the 4xx or 5xx class is an error. -/
theorem Reply.isError_iff (r : Reply) : r.isError = true ↔ 400 ≤ r.status ∧ r.status ≤ 599 := by
  simp [isError]

/-- Whether an operation failed with what a reply with the status of an error stands for. -/
def CallError.isRefusal : CallError → Bool
  | .refused _ | .unreadable _ => true
  | _ => false

namespace Session

open Url (Target)

/-- A reply that does not redirect does not point to a wrong place. -/
theorem redirectFault?_of_not_mem (t : Target) {r : Reply} (h : r.status ∉ redirects) :
    redirectFault? t r = none := by
  simp [redirectFault?, h]

/-- A reply that points to a wrong place redirects, so it is no error. -/
theorem isError_of_redirectFault? {t : Target} {r : Reply} {e : CallError}
    (h : redirectFault? t r = some e) : r.isError = false := by
  have hstatus : r.status ∈ redirects := by
    refine Decidable.byContradiction fun hmem => ?_
    rw [redirectFault?_of_not_mem t hmem] at h
    cases h
  simp only [redirects, List.mem_cons, List.not_mem_nil, or_false] at hstatus
  obtain hs | hs | hs | hs | hs := hstatus <;> simp [Reply.isError, hs]

theorem redirectFault?_not_isRefusal {t : Target} {r : Reply} {e : CallError}
    (h : redirectFault? t r = some e) : e.isRefusal = false := by
  unfold redirectFault? at h
  repeat' split at h
  all_goals
    cases h
    try rfl

/-- A reply that points nowhere does not point to a wrong place. -/
theorem redirectFault?_of_get? (t : Target) {r : Reply} (h : r.headers.get? "Location" = none) :
    redirectFault? t r = none := by
  simp only [redirectFault?, h, ite_self]

end Session

section

variable [Platform]

/-- An error bears the status of its reply, whatever the record in the body says. -/
theorem Reply.error_status (r : Reply) {e : RegistryError} (h : r.error = .ok e) :
    e.status = r.status := by
  rw [error] at h
  split at h
  · cases h
  · cases h
    rfl
  · split at h <;> cases h
    rfl

/-- What a reply with the status of an error makes an operation fail with. -/
def Reply.failure (r : Reply) : CallError :=
  match r.error with
  | .ok e => .refused e
  | .error e => .unreadable e

theorem Reply.failure_eq_refused_iff (r : Reply) (e : RegistryError) :
    r.failure = .refused e ↔ r.error = .ok e := by
  cases h : r.error <;> simp [failure, h]

theorem Reply.failure_eq_unreadable_iff (r : Reply) (e : Raised) :
    r.failure = .unreadable e ↔ r.error = .error e := by
  cases h : r.error <;> simp [failure, h]

/-- The payload that a body carries: null for an empty one, else what is in the envelope. -/
def Carries (body : Bytes) (payload : Json) : Prop :=
  (body = [] ∧ payload = .null) ∨
    (body ≠ [] ∧ ∃ envelope, Json.load body = .ok envelope ∧ Envelope.content envelope = payload)

/-- What is read from a body where something is expected.  Where nothing is, anything will do. -/
def Expected.Reads (expected : Expected) (body : Bytes) (result : Result) : Prop :=
  match expected with
  | .nothing => result = .value .null
  | .bytes => result = .bytes body
  | expected =>
    ∃ payload v, Carries body payload ∧ expected.read payload = .ok v ∧ result = .value v

namespace Session

theorem taken_eq_ok_iff (expected : Expected) (payload : Json) (result : Result) :
    taken expected payload = .ok result ↔
      ∃ v, expected.read payload = .ok v ∧ result = .value v := by
  cases h : expected.read payload <;> simp [taken, h, eq_comm]

theorem taken_not_isRefusal {expected : Expected} {payload : Json} {e : CallError}
    (h : taken expected payload = .error e) : e.isRefusal = false := by
  rw [taken] at h
  split at h <;> cases h
  rfl

/-- Where a payload is expected, a reply gives what is taken from the payload of its body. -/
theorem accept_of_readsJson (s : Session) {expected : Expected} (h : expected.readsJson = true)
    (r : Reply) :
    (s.accept expected r).2.1 =
      if r.body.isEmpty then taken expected .null
      else
        match Json.load r.body with
        | .error e => .error (.undecodable e)
        | .ok envelope => taken expected (Envelope.content envelope) := by
  cases expected with
  | nothing | bytes => cases h
  | payload | item | items =>
    cases hd : Json.load r.body <;> simp only [accept, hd] <;> split <;> rfl

theorem reads_of_readsJson {expected : Expected} (h : expected.readsJson = true) (body : Bytes)
    (result : Result) :
    expected.Reads body result ↔
      ∃ payload v, Carries body payload ∧ expected.read payload = .ok v ∧ result = .value v := by
  cases expected with
  | nothing | bytes => cases h
  | payload | item | items => rfl

theorem accept_eq_ok_iff (s : Session) (expected : Expected) (r : Reply) (result : Result) :
    (s.accept expected r).2.1 = .ok result ↔ expected.Reads r.body result := by
  cases hjson : expected.readsJson with
  | false =>
    cases expected with
    | nothing | bytes => simp [accept, Expected.Reads, eq_comm]
    | payload | item | items => cases hjson
  | true =>
    rw [accept_of_readsJson s hjson, reads_of_readsJson hjson]
    by_cases hempty : r.body = []
    · simp [hempty, Carries, taken_eq_ok_iff]
    · cases hd : Json.load r.body <;> simp [hempty, hd, Carries, taken_eq_ok_iff]

/-- A reply that is no error is not refused. -/
theorem accept_not_isRefusal {s : Session} {expected : Expected} {r : Reply} {e : CallError}
    (h : (s.accept expected r).2.1 = .error e) : e.isRefusal = false := by
  cases hjson : expected.readsJson with
  | false =>
    cases expected with
    | nothing | bytes => cases h
    | payload | item | items => cases hjson
  | true =>
    rw [accept_of_readsJson s hjson] at h
    split at h
    · exact taken_not_isRefusal h
    · split at h
      · cases h
        rfl
      · exact taken_not_isRefusal h

/-- A reply that points to no wrong place is refused or accepted. -/
theorem receive_of_delivered (s : Session) {op : Operation} {request : Request} {r : Reply}
    (h : redirectFault? request.target r = none) :
    s.receive op request (.reply r) =
      if r.isError then (s, .error r.failure, []) else s.accept op.expected r := by
  simp only [receive, h, Reply.failure]
  split
  · cases r.error <;> rfl
  · rfl

section

variable {s : Session} {op : Operation} {request : Request} (r : Reply)

/-- An error is refused as what it stands for, and nothing else is. -/
theorem receive_reply_eq_refusal_iff {e : CallError} (he : e.isRefusal = true) :
    (s.receive op request (.reply r)).2.1 = .error e ↔ r.isError = true ∧ r.failure = e := by
  cases hfault : redirectFault? request.target r with
  | some fault =>
    have hne : fault ≠ e := by
      rintro rfl
      rw [redirectFault?_not_isRefusal hfault] at he
      cases he
    simp [receive, hfault, isError_of_redirectFault? hfault, hne]
  | none =>
    rw [receive_of_delivered s hfault]
    cases herror : r.isError with
    | true => simp
    | false =>
      refine iff_of_false (fun h => ?_) nofun
      rw [accept_not_isRefusal h] at he
      cases he

theorem receive_reply_eq_ok_iff (result : Result) :
    (s.receive op request (.reply r)).2.1 = .ok result ↔
      r.isError = false ∧ redirectFault? request.target r = none ∧
        op.expected.Reads r.body result := by
  cases hfault : redirectFault? request.target r with
  | some fault => simp [receive, hfault]
  | none =>
    rw [receive_of_delivered s hfault]
    cases herror : r.isError with
    | true => simp
    | false => simp [accept_eq_ok_iff]

/-- An error leaves the session as it is. -/
theorem receive_session_of_isError (h : r.isError = true) :
    (s.receive op request (.reply r)).1 = s := by
  cases hfault : redirectFault? request.target r with
  | some fault => simp [receive, hfault]
  | none => simp [receive_of_delivered s hfault, h]

/-- A reply that can be kept is received. -/
theorem perform_reply_of_namesScheme (hsent : s.request op = .ok request)
    (hscheme : request.target.namesScheme = true) :
    (s.perform op (.reply r)).session = (s.receive op request (.reply r)).1 ∧
      (s.perform op (.reply r)).result = (s.receive op request (.reply r)).2.1 := by
  simp [perform, hsent, Exchange.through, hscheme]

/-- A reply that cannot be kept is a failure of the connection. -/
theorem perform_of_lost (hsent : s.request op = .ok request)
    (hlost : request.target.namesScheme = false) :
    ∃ message, s.perform op (.reply r) =
      ⟨s, .error (.connection "ValueError" message), [request], []⟩ :=
  ⟨"unknown url type: " ++ quotedText (String.ofList request.target.text), by
    simp [perform, hsent, Exchange.through, hlost, receive]⟩

theorem perform_reply_of_not_namesScheme (hsent : s.request op = .ok request)
    (hscheme : ¬request.target.namesScheme = true) :
    (s.perform op (.reply r)).session = s ∧
      ∃ kind message, (s.perform op (.reply r)).result = .error (.connection kind message) := by
  obtain ⟨message, hperform⟩ := perform_of_lost r hsent (Bool.eq_false_iff.mpr hscheme)
  rw [hperform]
  exact ⟨rfl, _, message, rfl⟩

end

/-- How an operation whose request is sent ends on a reply. -/
structure Settles (s : Session) (op : Operation) (request : Request) (r : Reply) : Prop where
  /-- It is refused exactly when the status is one of an error, with the error of the reply. -/
  refused : ∀ e, (s.perform op (.reply r)).result = .error (.refused e) ↔
    request.target.namesScheme = true ∧ (400 ≤ r.status ∧ r.status ≤ 599) ∧ r.error = .ok e
  /-- It fails as the platform does where that leaves no error of the reply. -/
  unreadable : ∀ e, (s.perform op (.reply r)).result = .error (.unreadable e) ↔
    request.target.namesScheme = true ∧ (400 ≤ r.status ∧ r.status ≤ 599) ∧ r.error = .error e
  /-- It returns exactly when the status is any other and its result can be read from the body. -/
  returned : ∀ result, (s.perform op (.reply r)).result = .ok result ↔
    request.target.namesScheme = true ∧ ¬(400 ≤ r.status ∧ r.status ≤ 599) ∧
      redirectFault? request.target r = none ∧ op.expected.Reads r.body result
  status : ∀ e, r.error = .ok e → e.status = r.status
  unchanged : r.isError = true → (s.perform op (.reply r)).session = s
  sent : (s.perform op (.reply r)).requests = [request]

/-- Every operation whose request is sent settles on every reply. -/
theorem perform_settles {s : Session} {op : Operation} {request : Request}
    (hsent : s.request op = .ok request) (r : Reply) : Settles s op request r := by
  have hrequests : (s.perform op (.reply r)).requests = [request] := by simp [perform, hsent]
  by_cases hscheme : request.target.namesScheme = true
  · obtain ⟨hsession, hresult⟩ := perform_reply_of_namesScheme r hsent hscheme
    refine ⟨fun e => ?_, fun e => ?_, fun result => ?_, fun _ => r.error_status,
      fun herror => ?_, hrequests⟩
    · rw [hresult, receive_reply_eq_refusal_iff r rfl, r.isError_iff, r.failure_eq_refused_iff]
      exact (and_iff_right hscheme).symm
    · rw [hresult, receive_reply_eq_refusal_iff r rfl, r.isError_iff, r.failure_eq_unreadable_iff]
      exact (and_iff_right hscheme).symm
    · rw [hresult, receive_reply_eq_ok_iff, ← r.isError_iff, Bool.not_eq_true]
      exact (and_iff_right hscheme).symm
    · exact hsession.trans (receive_session_of_isError r herror)
  · obtain ⟨hsession, kind, message, hresult⟩ := perform_reply_of_not_namesScheme r hsent hscheme
    refine ⟨fun e => ?_, fun e => ?_, fun result => ?_, fun _ => r.error_status, fun _ => hsession,
      hrequests⟩
    · exact iff_of_false (by simp [hresult]) fun h => hscheme h.1
    · exact iff_of_false (by simp [hresult]) fun h => hscheme h.1
    · exact iff_of_false (by simp [hresult]) fun h => hscheme h.1

end Session

end

namespace Session

/-- Whether a fresh session sends the request of an operation and can keep the reply. -/
def sends (config : Config) (op : Operation) : Bool :=
  match start config [] with
  | .error _ => false
  | .ok s =>
    match s.request op with
    | .error _ => false
    | .ok request => request.target.namesScheme

theorem sends_iff (config : Config) (op : Operation) :
    sends config op = true ↔ ∃ s request, start config [] = .ok s ∧
      s.request op = .ok request ∧ request.target.namesScheme = true := by
  rw [sends]
  cases start config [] with
  | error e => simp
  | ok s => cases hrequest : s.request op <;> simp [hrequest]

/-- The configuration of a registry at some address, with the defaults for all else. -/
def configAt (baseUrl : String) : Config := ⟨baseUrl, none, .ofDecimal false 30 0, none, []⟩

open scoped Platform in
/-- A model that is missing is an error, which bears the reason phrase of its status. -/
theorem perform_settles_missing :
    ∃ s, start (configAt "http://registry.test") [] = .ok s ∧
      (s.perform (.getModel "m-1") (.reply ⟨404, [], []⟩)).result =
        .error (.refused ⟨404, "Not Found", none, none⟩) := by
  have hsends : sends (configAt "http://registry.test") (.getModel "m-1") = true := by
    decide +kernel
  obtain ⟨s, request, hs, hrequest, hscheme⟩ := (sends_iff _ _).mp hsends
  have hphrase : Http.reasonPhrase 404 = "Not Found" := by decide +kernel
  have herror : Reply.error ⟨404, [], []⟩ = .ok ⟨404, "Not Found", none, none⟩ := by
    rw [← hphrase]
    rfl
  exact ⟨s, hs,
    ((perform_settles hrequest ⟨404, [], []⟩).refused _).mpr ⟨hscheme, by decide, herror⟩⟩

open scoped Platform in
/-- A deletion succeeds on statuses that are neither of a success nor of an error, and a download
returns what came with them. -/
theorem perform_unrefused :
    ∃ s, start (configAt "http://registry.test") [] = .ok s ∧
      ∀ status ∈ [101, 302, 304, 600],
        (s.perform (.deleteModel "m-1") (.reply ⟨status, [], []⟩)).result = .ok (.value .null) ∧
          (s.perform (.downloadAsset "m-1" "a-1") (.reply ⟨status, [], [0x6D]⟩)).result =
            .ok (.bytes [0x6D]) := by
  have hdelete : sends (configAt "http://registry.test") (.deleteModel "m-1") = true := by
    decide +kernel
  have hdownload : sends (configAt "http://registry.test") (.downloadAsset "m-1" "a-1") = true := by
    decide +kernel
  obtain ⟨s, deletion, hs, hdeletion, hkept⟩ := (sends_iff _ _).mp hdelete
  obtain ⟨s', download, hs', hdownload, hkept'⟩ := (sends_iff _ _).mp hdownload
  cases hs.symm.trans hs'
  have herror : ∀ status ∈ [101, 302, 304, 600], ∀ body,
      Reply.isError ⟨status, [], body⟩ = false := by
    simp [Reply.isError]
  refine ⟨s, hs, fun status hstatus => ⟨?_, ?_⟩⟩
  · rw [(perform_reply_of_namesScheme _ hdeletion hkept).2, receive_reply_eq_ok_iff]
    exact ⟨herror status hstatus _, redirectFault?_of_get? _ rfl, rfl⟩
  · rw [(perform_reply_of_namesScheme _ hdownload hkept').2, receive_reply_eq_ok_iff]
    exact ⟨herror status hstatus _, redirectFault?_of_get? _ rfl, rfl⟩

end Session

end RegistryGateway.Client
