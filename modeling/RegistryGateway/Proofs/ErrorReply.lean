import RegistryGateway.Proofs.Addressing
import RegistryGateway.Proofs.Delivery
import RegistryGateway.Proofs.RecordForm
import RegistryGateway.Proofs.Refusal
import RegistryGateway.Proofs.WireFormat

/-! The error that a reply stands for.  The record in the body says what went wrong, if the body is
one; else the body does, as text; else the status alone.  An operation that gets a reply with the
status of an error fails with that one error, and the session stays as it was.  No error is left of
a reply whose body is nested too deep to be read, or is no record and cannot be made text of: what
the platform raises then is what the operation fails with. -/

namespace RegistryGateway.Client

namespace Reply

theorem textAt_of_member? {record : Json} {key detail : String}
    (h : record.member? key = some (.str detail)) : textAt record key = detail := by
  rw [textAt, textAt?, h, Option.getD_some]

theorem textAt?_of_member? {record : Json} {key : String} {code : Option String}
    (h : record.member? key = some (.ofOption code)) : textAt? record key = code := by
  rw [textAt?, h]
  cases code <;> rfl

end Reply

section

variable [Platform]

/-- The body of a reply is read as an error record, which has this normal form. -/
def Reply.Records (r : Reply) (record : Json) : Prop :=
  ∃ v, Json.load r.body = .ok v ∧ errorResponse.normalize v = .ok record

/-- The body of a reply can be read, and is no error record. -/
def Reply.Recordless (r : Reply) : Prop :=
  Platform.readFault? r.body = none ∧ ∀ record, ¬r.Records record

/-- The error that a reply stands for.  The status is always the one of the reply. -/
inductive Reply.StandsFor (r : Reply) : RegistryError → Prop
  /-- A record gives the text of the error and its code, which may be null. -/
  | record {record : Json} {detail : String} {code : Option String} : r.Records record →
      record.member? "error" = some (.str detail) →
      record.member? "code" = some (.ofOption code) →
      r.StandsFor ⟨r.status, detail, code, some record⟩
  | text {text : String} : r.Recordless → r.text = .ok text → text ≠ "" →
      r.StandsFor ⟨r.status, text, none, none⟩
  | phrase : r.Recordless → r.text = .ok "" →
      r.StandsFor ⟨r.status, Http.reasonPhrase r.status, none, none⟩

/-- What the platform raises where a reply stands for no error. -/
inductive Reply.Raises (r : Reply) : Raised → Prop
  | nesting {e : Raised} : Platform.readFault? r.body = some e → r.Raises e
  | text {e : Raised} : r.Recordless → r.text = .error e → r.Raises e

/-- Every error record has a text, and a code or null. -/
theorem Reply.Records.members {r : Reply} {record : Json} (h : r.Records record) :
    (∃ detail, record.member? "error" = some (.str detail)) ∧
      ∃ code, record.member? "code" = some (.ofOption code) := by
  obtain ⟨_, -, hnormal⟩ := h
  have hnames : (["status", "error", "code", "timestamp", "execution"] : List String).Nodup := by
    decide
  -- the text is the second field, the code the third
  obtain ⟨_, _, _, hread, hmember⟩ := Shape.member?_of_normalize hnormal hnames
    (List.mem_cons_of_mem _ List.mem_cons_self)
  obtain ⟨_, _, _, hread', hmember'⟩ := Shape.member?_of_normalize hnormal hnames
    (List.mem_cons_of_mem _ (List.mem_cons_of_mem _ List.mem_cons_self))
  constructor
  · cases hread with
    | @supplied _ _ _ given _ _ hd =>
      cases given with
      | str detail =>
        cases hd
        exact ⟨detail, hmember⟩
      | null | bool | int | float | arr | obj => cases hd
  · cases hread' with
    | @supplied _ _ _ given _ _ hd =>
      cases given with
      | null =>
        cases hd
        exact ⟨none, hmember'⟩
      | str code =>
        cases hd
        exact ⟨some code, hmember'⟩
      | bool | int | float | arr | obj => cases hd
    | missing => exact ⟨none, hmember'⟩

namespace Reply

/-- The record in a body is looked for where the body is not nested too deep. -/
theorem errorRecord?_eq (r : Reply) :
    r.errorRecord? =
      match Platform.readFault? r.body with
      | some e => .error e
      | none =>
        .ok (match Json.decode r.body with
          | .ok v => (errorResponse.normalize v).toOption
          | .error _ => none) := by
  rw [errorRecord?, Json.load]
  cases Platform.readFault? r.body with
  | some e => rfl
  | none => cases Json.decode r.body <;> rfl

theorem records_iff (r : Reply) (record : Json) :
    r.Records record ↔ r.errorRecord? = .ok (some record) := by
  rw [errorRecord?_eq, Records]
  simp only [Json.load_eq_ok_iff]
  cases Platform.readFault? r.body with
  | some e => simp
  | none =>
    cases Json.decode r.body with
    | error e => simp
    | ok v => cases h : errorResponse.normalize v <;> simp [h, Except.toOption]

theorem recordless_iff (r : Reply) : r.Recordless ↔ r.errorRecord? = .ok none := by
  simp only [Recordless, records_iff]
  rw [errorRecord?_eq]
  cases Platform.readFault? r.body with
  | some e => simp
  | none => simp [Option.eq_none_iff_forall_ne_some]

theorem errorRecord?_eq_error_iff (r : Reply) (e : Raised) :
    r.errorRecord? = .error e ↔ Platform.readFault? r.body = some e := by
  rw [errorRecord?_eq]
  cases Platform.readFault? r.body <;> simp

/-- A reply stands for its error, if it has one. -/
theorem standsFor_iff (r : Reply) (e : RegistryError) : r.StandsFor e ↔ r.error = .ok e := by
  constructor
  · intro h
    cases h with
    | record hrecord hdetail hcode =>
      rw [error, (records_iff r _).mp hrecord]
      simp only [textAt_of_member? hdetail, textAt?_of_member? hcode]
    | text hrecord htext hne => simp only [error, (recordless_iff r).mp hrecord, htext, if_neg hne]
    | phrase hrecord htext => simp only [error, (recordless_iff r).mp hrecord, htext, if_pos]
  · intro h
    rw [error] at h
    split at h
    next => cases h
    next record hrecord =>
      have hread := (records_iff r record).mpr hrecord
      obtain ⟨⟨detail, hdetail⟩, code, hcode⟩ := hread.members
      rw [textAt_of_member? hdetail, textAt?_of_member? hcode] at h
      cases h
      exact .record hread hdetail hcode
    next hrecord =>
      have hrecordless := (recordless_iff r).mpr hrecord
      split at h
      next => cases h
      next text htext =>
        cases h
        split
        next hempty => exact .phrase hrecordless (hempty ▸ htext)
        next hne => exact .text hrecordless htext hne

/-- The platform raises what is left of a reply without an error. -/
theorem raises_iff (r : Reply) (e : Raised) : r.Raises e ↔ r.error = .error e := by
  constructor
  · intro h
    cases h with
    | nesting hfault => simp only [error, (errorRecord?_eq_error_iff r e).mpr hfault]
    | text hrecord htext => simp only [error, (recordless_iff r).mp hrecord, htext]
  · intro h
    rw [error] at h
    split at h
    next hfault =>
      cases h
      exact .nesting ((errorRecord?_eq_error_iff r e).mp hfault)
    next => cases h
    next hrecord =>
      split at h
      next htext =>
        cases h
        exact .text ((recordless_iff r).mpr hrecord) htext
      next => cases h

theorem StandsFor.status {r : Reply} {e : RegistryError} (h : r.StandsFor e) :
    e.status = r.status := by
  cases h <;> rfl

theorem StandsFor.message {r : Reply} {e : RegistryError} (h : r.StandsFor e) :
    (CallError.refused e).message = s!"{r.status}: {e.detail}" := by
  rw [← h.status]
  rfl

end Reply

namespace Session

/-- How an operation ends on a reply with the status of an error. -/
structure Diagnoses (s : Session) (op : Operation) (request : Request) (r : Reply) : Prop where
  /-- Over a base with a scheme the reply is kept. -/
  kept : s.base.scheme ≠ [] → request.target.namesScheme = true
  /-- A reply stands for an error unless the platform raises something. -/
  total : (∃ e, r.StandsFor e) ↔ ¬∃ e, r.Raises e
  /-- A reply that is kept and stands for an error stands for that one only, and the operation fails
  with it. -/
  refused : request.target.namesScheme = true → ∀ e, r.StandsFor e →
    (∀ other, r.StandsFor other → other = e) ∧
      (s.perform op (.reply r)).result = .error (.refused e)
  /-- What the platform raises is not turned into an error of the registry. -/
  raised : request.target.namesScheme = true → ∀ e, r.Raises e →
    (s.perform op (.reply r)).result = .error (.unreadable e)
  /-- The text of the failure is the status and what the error says. -/
  shown : ∀ e, r.StandsFor e → e.status = r.status ∧
    (CallError.refused e).message = s!"{r.status}: {e.detail}"
  /-- A reply that cannot be kept is a failure of the connection. -/
  lost : request.target.namesScheme = false → ∃ message,
    (s.perform op (.reply r)).result = .error (.connection "ValueError" message)
  session : (s.perform op (.reply r)).session = s
  logs : (s.perform op (.reply r)).logs = []
  sent : (s.perform op (.reply r)).requests = [request]

theorem perform_error_of_kept {s : Session} {op : Operation} {request : Request} {r : Reply}
    (hsent : s.request op = .ok request) (hkept : request.target.namesScheme = true)
    (hstatus : r.isError = true) :
    s.perform op (.reply r) = ⟨s, .error r.failure, [request], []⟩ := by
  have hfault : redirectFault? request.target r = none := by
    cases hfault : redirectFault? request.target r with
    | none => rfl
    | some e =>
      rw [isError_of_redirectFault? hfault] at hstatus
      cases hstatus
  simp [perform, hsent, Exchange.through, hkept, receive_of_delivered s hfault, hstatus]

/-- Kept or not, an error leaves the session as it is. -/
theorem perform_error_ends {s : Session} {op : Operation} {request : Request} {r : Reply}
    (hsent : s.request op = .ok request) (hstatus : r.isError = true) :
    ∃ e, s.perform op (.reply r) = ⟨s, .error e, [request], []⟩ := by
  cases hnames : request.target.namesScheme with
  | true => exact ⟨_, perform_error_of_kept hsent hnames hstatus⟩
  | false =>
    obtain ⟨message, hperform⟩ := perform_of_lost r hsent hnames
    exact ⟨_, hperform⟩

/-- Whatever a client did before, an operation that gets a reply with the status of an error fails
with the error that the reply stands for, and leaves the session as it was. -/
theorem perform_diagnoses {config : Config} {boundary : List Char} {s : Session}
    (hstart : start config boundary = .ok s) (steps : List Step) {op : Operation}
    {request : Request} (hsent : (s.after steps).request op = .ok request) {r : Reply}
    (hstatus : 400 ≤ r.status ∧ r.status ≤ 599) : (s.after steps).Diagnoses op request r := by
  rw [← r.isError_iff] at hstatus
  obtain ⟨e, hends⟩ := perform_error_ends hsent hstatus
  refine ⟨fun hscheme => ?_, ?_, fun hnames e he => ⟨fun other hother => ?_, ?_⟩,
    fun hnames e he => ?_, fun e he => ⟨he.status, he.message⟩, fun hlost => ?_, by rw [hends],
    by rw [hends], by rw [hends]⟩
  · rw [after_base] at hscheme
    exact namesScheme_of_base hstart hscheme hsent
  · simp only [r.standsFor_iff, r.raises_iff]
    cases r.error <;> simp
  · rw [r.standsFor_iff] at he hother
    exact Except.ok.inj (hother.symm.trans he)
  · rw [r.standsFor_iff, ← r.failure_eq_refused_iff] at he
    rw [perform_error_of_kept hsent hnames hstatus, he]
  · rw [r.raises_iff, ← r.failure_eq_unreadable_iff] at he
    rw [perform_error_of_kept hsent hnames hstatus, he]
  · obtain ⟨message, hperform⟩ := perform_of_lost r hsent hlost
    exact ⟨message, by rw [hperform]⟩

/-- An error record whose own status is text, with an execution in it. -/
def goneRecord : List (String × Json) :=
  [("execution", .obj [("execution_id", .str "e-1")]), ("error", .str "gone"),
    ("status", .str " 500 "), ("code", .str "E1")]

def goneNormal : Json :=
  .obj [("status", .int 500), ("error", .str "gone"), ("code", .str "E1"), ("timestamp", .null),
    ("execution", .obj [("execution_id", .str "e-1"), ("spans", .arr [])])]

end Session

end

namespace Session

open scoped Platform

/-- The status of the reply counts, not the one in the record. -/
theorem perform_diagnoses_gone :
    ∃ s e, start (configAt "http://registry.test") [] = .ok s ∧
      (s.perform .health (.reply ⟨404, [], Json.written goneRecord⟩)).result =
        .error (.refused e) ∧
      e.status = 404 ∧ (CallError.refused e).message = "404: gone" ∧ e.code = some "E1" := by
  have hsends : sends (configAt "http://registry.test") .health = true := by decide +kernel
  obtain ⟨s, request, hs, hrequest, hscheme⟩ := (sends_iff _ _).mp hsends
  have hloaded : Json.load (Json.written goneRecord) = .ok (.obj goneRecord) :=
    Json.load_written (by decide) (by decide) (by decide) (by decide +kernel)
  have hdiagnoses := perform_diagnoses hs [] hrequest
    (show 400 ≤ (Reply.mk 404 [] (Json.written goneRecord)).status ∧ 404 ≤ (599 : Int) by decide)
  have hnormal : errorResponse.normalize (.obj goneRecord) = .ok goneNormal := rfl
  have hcode : goneNormal.member? "code" = some (.ofOption (some "E1")) := rfl
  exact ⟨s, _, hs, (hdiagnoses.refused hscheme _ (.record ⟨_, hloaded, hnormal⟩ rfl hcode)).2,
    rfl, by decide, rfl⟩

/-- A thousand brackets that are never closed are no error of the registry. -/
theorem perform_undiagnosed :
    ∃ s e, start (configAt "http://registry.test") [] = .ok s ∧
      (s.perform .health (.reply ⟨500, [], List.replicate 1000 0x5B⟩)).result =
        .error (.unreadable e) := by
  have hsends : sends (configAt "http://registry.test") .health = true := by decide +kernel
  obtain ⟨s, request, hs, hrequest, hscheme⟩ := (sends_iff _ _).mp hsends
  have hfault : (Platform.readFault? (List.replicate 1000 0x5B)).isSome = true := by
    decide +kernel
  obtain ⟨e, he⟩ := Option.isSome_iff_exists.mp hfault
  have hfailure := (Reply.failure_eq_unreadable_iff ⟨500, [], List.replicate 1000 0x5B⟩ e).mpr
    ((Reply.raises_iff _ e).mp (.nesting he))
  exact ⟨s, e, hs, by rw [perform_error_of_kept hrequest hscheme rfl, hfailure]⟩

end Session

end RegistryGateway.Client
