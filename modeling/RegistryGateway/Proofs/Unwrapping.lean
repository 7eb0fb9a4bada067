import RegistryGateway.Proofs.Refusal
import RegistryGateway.Proofs.WireFormat

/-! The forms of a payload.  A payload comes bare, or in an envelope with an execution, as the data
or as the items.  An operation that reads payloads ends in the same way for every form, whether the
execution is well-formed or not, and only one envelope is opened. -/

namespace RegistryGateway.Client

/-- The value shown is the payload or an envelope around it.  In an envelope the data come before
the items. -/
inductive Shows (payload : Json) : Json → Prop
  | bare : payload.member? "execution" = none → Shows payload payload
  | data {members : List (String × Json)} {execution : Json} :
      Assoc.get? members "execution" = some execution →
      Assoc.get? members "data" = some payload → Shows payload (.obj members)
  | items {members : List (String × Json)} {execution : Json} :
      Assoc.get? members "execution" = some execution → Assoc.get? members "data" = none →
      Assoc.get? members "items" = some payload → Shows payload (.obj members)

/-- What is in an envelope is the payload, which may be an envelope itself. -/
theorem Shows.content {payload shown : Json} (h : Shows payload shown) :
    Envelope.content shown = payload := by
  cases h with
  | bare hexecution => simp [Envelope.content, hexecution]
  | data hexecution hdata => simp [Envelope.content, Json.member?, hexecution, hdata]
  | items hexecution hdata hitems =>
    simp [Envelope.content, Json.member?, hexecution, hdata, hitems]

section

variable [Platform]

/-- The bytes are a text of the payload, in one of its forms. -/
def Presents (body : Bytes) (payload : Json) : Prop :=
  ∃ shown, Json.load body = .ok shown ∧ Shows payload shown

theorem Presents.carries {body : Bytes} {payload : Json} (h : Presents body payload) :
    Carries body payload := by
  obtain ⟨shown, hdecoded, hshows⟩ := h
  refine .inr ⟨?_, shown, hdecoded, hshows.content⟩
  rintro rfl
  cases (Json.load_eq_ok_iff.mp hdecoded).2

namespace Session

section

variable (s : Session) {op : Operation} (status : Int) (headers : Headers)

theorem accept_of_carries {body : Bytes} {payload : Json}
    (hreads : op.expected.readsJson = true) (h : Carries body payload) :
    (s.accept op.expected ⟨status, headers, body⟩).2.1 = taken op.expected payload := by
  rw [accept_of_readsJson s hreads]
  obtain ⟨rfl, rfl⟩ | ⟨hbody, envelope, hdecoded, rfl⟩ := h
  · rfl
  · simp [hbody, hdecoded]

theorem perform_result_of_carries {body : Bytes} {payload : Json} {request : Request}
    (hreads : op.expected.readsJson = true) (h : Carries body payload)
    (hrequest : s.request op = .ok request) (hscheme : request.target.namesScheme = true)
    (hfault : redirectFault? request.target ⟨status, headers, body⟩ = none)
    (hstatus : ¬(400 ≤ status ∧ status ≤ 599)) :
    (s.perform op (.reply ⟨status, headers, body⟩)).result = taken op.expected payload := by
  rw [← Reply.isError_iff ⟨status, headers, body⟩] at hstatus
  rw [(perform_reply_of_namesScheme _ hrequest hscheme).2, receive_of_delivered s hfault,
    if_neg hstatus]
  exact accept_of_carries s status headers hreads h

theorem perform_result_congr {body body' : Bytes} (hstatus : ¬(400 ≤ status ∧ status ≤ 599))
    (h : (s.accept op.expected ⟨status, headers, body⟩).2.1 =
      (s.accept op.expected ⟨status, headers, body'⟩).2.1) :
    (s.perform op (.reply ⟨status, headers, body⟩)).result =
      (s.perform op (.reply ⟨status, headers, body'⟩)).result := by
  cases hrequest : s.request op with
  | error e => simp [perform, hrequest]
  | ok request =>
    have herror (body : Bytes) : ¬Reply.isError ⟨status, headers, body⟩ = true := by
      rw [Reply.isError_iff]
      exact hstatus
    -- the place that a reply points to is in its headers
    have hfault : redirectFault? request.target ⟨status, headers, body⟩ =
        redirectFault? request.target ⟨status, headers, body'⟩ := rfl
    by_cases hscheme : request.target.namesScheme = true
    · rw [(perform_reply_of_namesScheme _ hrequest hscheme).2,
        (perform_reply_of_namesScheme _ hrequest hscheme).2]
      simp only [receive, ← hfault]
      cases redirectFault? request.target ⟨status, headers, body⟩ with
      | some fault => rfl
      | none => simpa only [if_neg (herror _)] using h
    · simp [perform, hrequest, Exchange.through, hscheme, receive]

end

/-- An operation takes a payload in the same way, whichever form it comes in. -/
structure Transparent (s : Session) (op : Operation) (status : Int) (headers : Headers)
    (payload : Json) : Prop where
  same : ¬(400 ≤ status ∧ status ≤ 599) → ∀ body body', Presents body payload →
    Presents body' payload → (s.perform op (.reply ⟨status, headers, body⟩)).result =
      (s.perform op (.reply ⟨status, headers, body'⟩)).result
  read : ¬(400 ≤ status ∧ status ≤ 599) → ∀ body request, Presents body payload →
    s.request op = .ok request → request.target.namesScheme = true →
    redirectFault? request.target ⟨status, headers, body⟩ = none →
    (s.perform op (.reply ⟨status, headers, body⟩)).result = taken op.expected payload
  /-- An error is refused with its status, whatever its body holds, unless the platform leaves no
  error of it. -/
  refused : 400 ≤ status ∧ status ≤ 599 → ∀ body request, s.request op = .ok request →
    request.target.namesScheme = true → ∃ failure,
      (s.perform op (.reply ⟨status, headers, body⟩)).result = .error failure ∧
        ((∃ e, failure = .refused e ∧ e.status = status) ∨
          ∃ e, failure = .unreadable e ∧ Reply.error ⟨status, headers, body⟩ = .error e)
  /-- One envelope is opened and no more. -/
  once : ∀ members execution, Assoc.get? members "execution" = some execution →
    Assoc.get? members "data" = some payload → Envelope.content (.obj members) = payload

/-- Every operation that reads payloads takes them in the same way in all their forms. -/
theorem perform_transparent {op : Operation} (hreads : op.expected.readsJson = true) (s : Session)
    (status : Int) (headers : Headers) (payload : Json) :
    s.Transparent op status headers payload where
  same hstatus body body' h h' := by
    have haccept := accept_of_carries s status headers hreads h.carries
    have haccept' := accept_of_carries s status headers hreads h'.carries
    exact perform_result_congr s status headers hstatus (haccept.trans haccept'.symm)
  read hstatus _ _ h hrequest hscheme hfault :=
    perform_result_of_carries s status headers hreads h.carries hrequest hscheme hfault hstatus
  refused hstatus body request hrequest hscheme := by
    have herror := (Reply.isError_iff ⟨status, headers, body⟩).mpr hstatus
    rw [(perform_reply_of_namesScheme _ hrequest hscheme).2]
    cases he : Reply.error ⟨status, headers, body⟩ with
    | ok e =>
      have hfailure := (Reply.failure_eq_refused_iff _ e).mpr he
      exact ⟨_, (receive_reply_eq_refusal_iff _ rfl).mpr ⟨herror, hfailure⟩,
        .inl ⟨e, rfl, Reply.error_status _ he⟩⟩
    | error e =>
      have hfailure := (Reply.failure_eq_unreadable_iff _ e).mpr he
      exact ⟨_, (receive_reply_eq_refusal_iff _ rfl).mpr ⟨herror, hfailure⟩, .inr ⟨e, rfl, rfl⟩⟩
  once members execution hexecution hdata := (Shows.data hexecution hdata).content

end Session

end

namespace Session

open scoped Platform

def identified : Json := .obj [("id", .int 1)]

def bareBody : Bytes := Json.written [("id", .int 1)]

/-- The payload as the data of an envelope with a malformed execution. -/
def dataBody : Bytes := Json.written [("data", identified), ("execution", .null)]

/-- The payload as the items of an envelope with a member besides. -/
def itemsBody : Bytes :=
  Json.written [("items", identified), ("more", .int 0), ("execution", .obj [])]

theorem presents_identified :
    Presents bareBody identified ∧ Presents dataBody identified ∧
      Presents itemsBody identified := by
  have hbare : Json.load bareBody = .ok identified :=
    Json.load_written (by decide) (by decide) (by decide) (by decide +kernel)
  have hdata : Json.load dataBody = .ok (.obj [("data", identified), ("execution", .null)]) :=
    Json.load_written (by decide) (by decide) (by decide) (by decide +kernel)
  have hitems : Json.load itemsBody =
      .ok (.obj [("items", identified), ("more", .int 0), ("execution", .obj [])]) :=
    Json.load_written (by decide) (by decide) (by decide) (by decide +kernel)
  exact ⟨⟨_, hbare, .bare rfl⟩, ⟨_, hdata, .data rfl rfl⟩, ⟨_, hitems, .items rfl rfl rfl⟩⟩

/-- A payload is the same, bare or wrapped. -/
theorem perform_transparent_identified :
    ∃ s, start (configAt "http://registry.test") [] = .ok s ∧
      ∀ body ∈ [bareBody, dataBody, itemsBody],
        (s.perform .health (.reply ⟨200, [], body⟩)).result = .ok (.value identified) := by
  have hsends : sends (configAt "http://registry.test") .health = true := by decide +kernel
  obtain ⟨s, request, hs, hrequest, hscheme⟩ := (sends_iff _ _).mp hsends
  obtain ⟨hbare, hdata, hitems⟩ := presents_identified
  have hreads : Operation.health.expected.readsJson = true := rfl
  have htransparent := perform_transparent hreads s 200 [] identified
  refine ⟨s, hs, fun body hbody => ?_⟩
  have hpresents : Presents body identified := by
    simp only [List.mem_cons, List.not_mem_nil, or_false] at hbody
    obtain rfl | rfl | rfl := hbody
    · exact hbare
    · exact hdata
    · exact hitems
  exact htransparent.read (by decide) body request hpresents hrequest hscheme
    (redirectFault?_of_get? _ rfl)

end Session

end RegistryGateway.Client
