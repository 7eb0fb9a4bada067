import RegistryGateway.Proofs.Progress
import RegistryGateway.Proofs.Refusal
import RegistryGateway.Proofs.WireFormat

/-! What a session remembers.  The last execution of a session is the one in the latest answer that
had a well-formed execution, whatever became of the rest of that answer.  An answer counts from
where it reaches its operation: a reply that cannot be kept, or that points to a wrong place, does
not. -/

namespace RegistryGateway.Client

/-- A reply with the operation that it reached. -/
structure Answer where
  op : Operation
  reply : Reply

namespace Session

/-- The answer that a step gets. -/
def answer? (s : Session) : Step → Option Answer
  | .call op (.reply r) =>
    match s.request op with
    | .error _ => none
    | .ok request =>
      if request.target.namesScheme && (redirectFault? request.target r).isNone then some ⟨op, r⟩
      else none
  | _ => none

theorem answer?_eq_some_iff (s : Session) (step : Step) (a : Answer) :
    s.answer? step = some a ↔ step = .call a.op (.reply a.reply) ∧
      ∃ request, s.request a.op = .ok request ∧ request.target.namesScheme = true ∧
        redirectFault? request.target a.reply = none := by
  constructor
  · intro h
    unfold answer? at h
    split at h
    next op r =>
      split at h
      · cases h
      next request hrequest =>
      split at h
      next hreaches =>
        obtain rfl := Option.some.inj h
        rw [Bool.and_eq_true, Option.isNone_iff_eq_none] at hreaches
        exact ⟨rfl, request, hrequest, hreaches⟩
      · cases h
    · cases h
  · rintro ⟨rfl, request, hrequest, hscheme, hfault⟩
    simp [answer?, hrequest, hscheme, hfault]

end Session

section

variable [Platform]

namespace Answer

/-- The payload that the operation finds in the body, before its envelope is opened. -/
structure Holds (a : Answer) (payload : Json) : Prop where
  reads : a.op.expected.readsJson = true
  status : ¬(400 ≤ a.reply.status ∧ a.reply.status ≤ 599)
  body : a.reply.body ≠ []
  decoded : Json.load a.reply.body = .ok payload

/-- The payload is an object with this execution. -/
def Encloses (a : Answer) (execution : Json) : Prop :=
  ∃ members, a.Holds (.obj members) ∧ Assoc.get? members "execution" = some execution

/-- The execution in the answer is well-formed, with this record for its normal form. -/
def Bears (a : Answer) (record : Json) : Prop :=
  ∃ execution, a.Encloses execution ∧ executionResult.normalize execution = .ok record

/-- The execution in the answer has misfits. -/
def Malformed (a : Answer) : Prop :=
  ∃ execution misfits, a.Encloses execution ∧ executionResult.normalize execution = .error misfits

theorem Holds.unique {a : Answer} {first second : Json} (h : a.Holds first) (h' : a.Holds second) :
    first = second :=
  Except.ok.inj (h.decoded.symm.trans h'.decoded)

theorem Encloses.unique {a : Answer} {first second : Json} (h : a.Encloses first)
    (h' : a.Encloses second) : first = second := by
  obtain ⟨members, hholds, hget⟩ := h
  obtain ⟨members', hholds', hget'⟩ := h'
  cases hholds.unique hholds'
  exact Option.some.inj (hget.symm.trans hget')

theorem Bears.not_malformed {a : Answer} {record : Json} (h : a.Bears record) : ¬a.Malformed := by
  obtain ⟨execution, hencloses, hrecord⟩ := h
  rintro ⟨execution', misfits, hencloses', hmisfits⟩
  cases hencloses.unique hencloses'
  cases hrecord.symm.trans hmisfits

theorem Encloses.cases {a : Answer} {execution : Json} (h : a.Encloses execution) :
    (∃ record, a.Bears record) ∨ a.Malformed := by
  cases hnormal : executionResult.normalize execution with
  | ok record => exact .inl ⟨record, execution, h, hnormal⟩
  | error misfits => exact .inr ⟨execution, misfits, h, hnormal⟩

theorem Bears.unique {a : Answer} {first second : Json} (h : a.Bears first) (h' : a.Bears second) :
    first = second := by
  obtain ⟨execution, hencloses, hfirst⟩ := h
  obtain ⟨execution', hencloses', hsecond⟩ := h'
  cases hencloses.unique hencloses'
  exact Except.ok.inj (hfirst.symm.trans hsecond)

end Answer

/-- The record in the latest of some answers that bears one. -/
def Latest (answers : List Answer) (record : Json) : Prop :=
  ∃ before a later, answers = before ++ a :: later ∧ a.Bears record ∧
    ∀ b ∈ later, ∀ other, ¬b.Bears other

theorem not_latest_nil (record : Json) : ¬Latest [] record := by
  rintro ⟨before, a, later, h, -⟩
  simp at h

/-- The first of some answers counts when none after it bears a record. -/
theorem latest_cons_iff (a : Answer) (answers : List Answer) (record : Json) :
    Latest (a :: answers) record ↔
      Latest answers record ∨ ((∀ b ∈ answers, ∀ other, ¬b.Bears other) ∧ a.Bears record) := by
  constructor
  · rintro ⟨before, b, later, h, hbears, hlater⟩
    cases before with
    | nil =>
      obtain ⟨rfl, rfl⟩ := List.cons.inj h
      exact .inr ⟨hlater, hbears⟩
    | cons c before =>
      obtain ⟨rfl, rfl⟩ := List.cons.inj h
      exact .inl ⟨before, b, later, rfl, hbears, hlater⟩
  · rintro (⟨before, b, later, rfl, hbears, hlater⟩ | ⟨hlater, hbears⟩)
    · exact ⟨a :: before, b, later, rfl, hbears, hlater⟩
    · exact ⟨[], a, answers, rfl, hbears, hlater⟩

theorem Latest.mem {answers : List Answer} {record : Json} (h : Latest answers record) :
    ∃ a ∈ answers, a.Bears record := by
  obtain ⟨before, a, later, rfl, hbears, -⟩ := h
  exact ⟨a, by simp, hbears⟩

namespace Session

/-- The answers that a run gets, in order. -/
def answers (s : Session) : List Step → List Answer
  | [] => []
  | step :: rest => (s.answer? step).toList ++ answers (s.step step).session rest

/-! ## One step -/

theorem remember_of_not_enclosed (s : Session) {payload : Json}
    (h : payload.member? "execution" = none) : s.remember payload = (s, []) := by
  simp [remember, Envelope.execution?, h]

theorem remember_record (s : Session) {payload execution record : Json}
    (h : payload.member? "execution" = some execution)
    (hrecord : executionResult.normalize execution = .ok record) :
    s.remember payload = ({ s with lastExecution := some record }, []) := by
  simp [remember, Envelope.execution?, h, hrecord]

theorem remember_misfits (s : Session) {payload execution : Json} {misfits : List Misfit}
    (h : payload.member? "execution" = some execution)
    (hmisfits : executionResult.normalize execution = .error misfits) :
    ∃ text, s.remember payload = (s, [⟨.warning, logger, text⟩]) := by
  simp [remember, Envelope.execution?, h, hmisfits]

/-- Where a payload is found, its execution is remembered and its content taken. -/
theorem accept_of_holds (s : Session) {a : Answer} {payload : Json} (h : a.Holds payload) :
    s.accept a.op.expected a.reply =
      ((s.remember payload).1, taken a.op.expected (Envelope.content payload),
        (s.remember payload).2) := by
  have hreads := h.reads
  cases hexpected : a.op.expected with
  | nothing | bytes => simp [hexpected, Expected.readsJson] at hreads
  | payload | item | items => simp [accept, h.body, h.decoded]

theorem accept_of_not_holds (s : Session) {a : Answer} (herror : a.reply.isError = false)
    (h : ∀ payload, ¬a.Holds payload) :
    (s.accept a.op.expected a.reply).1 = s ∧ (s.accept a.op.expected a.reply).2.2 = [] := by
  unfold accept
  split
  · exact ⟨rfl, rfl⟩
  · exact ⟨rfl, rfl⟩
  next hnothing hbytes =>
  split
  · exact ⟨rfl, rfl⟩
  next hbody =>
  split
  · exact ⟨rfl, rfl⟩
  next payload hdecoded =>
  have hreads : a.op.expected.readsJson = true := by
    cases hexpected : a.op.expected <;> simp_all [Expected.readsJson]
  have hstatus : ¬(400 ≤ a.reply.status ∧ a.reply.status ≤ 599) := by
    rw [← a.reply.isError_iff, herror]
    exact Bool.false_ne_true
  exact absurd ⟨hreads, hstatus, by simpa using hbody, hdecoded⟩ (h payload)

section

variable {s : Session} {step : Step} {a : Answer}

/-- A step that gets an answer does what its operation makes of the reply. -/
theorem step_of_answer (h : s.answer? step = some a) :
    ((s.step step).session, (s.step step).result, (s.step step).logs) =
      if a.reply.isError then (s, .error a.reply.failure, [])
      else s.accept a.op.expected a.reply := by
  obtain ⟨rfl, request, hrequest, hscheme, hfault⟩ := (answer?_eq_some_iff s step a).mp h
  rw [← receive_of_delivered s hfault]
  simp [Session.step, perform, hrequest, Exchange.through, hscheme]

theorem step_of_no_answer (h : s.answer? step = none) :
    (s.step step).session.lastExecution = s.lastExecution ∧ (s.step step).logs = [] := by
  cases step with
  | setContext context => exact ⟨rfl, rfl⟩
  | showContext => exact ⟨rfl, rfl⟩
  | close => exact ⟨rfl, rfl⟩
  | call op exchange =>
    cases hrequest : s.request op with
    | error e => simp [Session.step, perform, hrequest]
    | ok request =>
      cases exchange with
      | failure kind message => simp [Session.step, perform, hrequest, Exchange.through, receive]
      | reply r =>
        simp only [answer?, hrequest] at h
        by_cases hscheme : request.target.namesScheme = true
        · cases hfault : redirectFault? request.target r with
          | none => simp [hscheme, hfault] at h
          | some fault =>
            simp [Session.step, perform, hrequest, Exchange.through, hscheme, receive, hfault]
        · simp [Session.step, perform, hrequest, Exchange.through, hscheme, receive]

theorem step_of_holds {payload : Json} (h : s.answer? step = some a) (hholds : a.Holds payload) :
    (s.step step).session = (s.remember payload).1 ∧
      (s.step step).result = taken a.op.expected (Envelope.content payload) ∧
      (s.step step).logs = (s.remember payload).2 := by
  have herror : ¬a.reply.isError = true := by
    rw [a.reply.isError_iff]
    exact hholds.status
  have hstep := step_of_answer h
  rw [if_neg herror, accept_of_holds s hholds] at hstep
  exact ⟨congrArg (·.1) hstep, congrArg (·.2.1) hstep, congrArg (·.2.2) hstep⟩

theorem step_of_not_holds (h : s.answer? step = some a) (hholds : ∀ payload, ¬a.Holds payload) :
    (s.step step).session = s ∧ (s.step step).logs = [] := by
  have hstep := step_of_answer h
  by_cases herror : a.reply.isError = true
  · rw [if_pos herror] at hstep
    exact ⟨congrArg (·.1) hstep, congrArg (·.2.2) hstep⟩
  · rw [if_neg herror] at hstep
    obtain ⟨hsession, hlogs⟩ := accept_of_not_holds s (by simpa using herror) hholds
    exact ⟨(congrArg (·.1) hstep).trans hsession, (congrArg (·.2.2) hstep).trans hlogs⟩

theorem step_of_bears {record : Json} (h : s.answer? step = some a) (hbears : a.Bears record) :
    (s.step step).session.lastExecution = some record ∧ (s.step step).logs = [] := by
  obtain ⟨execution, ⟨members, hholds, hget⟩, hrecord⟩ := hbears
  obtain ⟨hsession, -, hlogs⟩ := step_of_holds h hholds
  have hmember : (Json.obj members).member? "execution" = some execution := hget
  rw [hsession, hlogs, remember_record s hmember hrecord]
  exact ⟨rfl, rfl⟩

theorem step_of_malformed (h : s.answer? step = some a) (hmalformed : a.Malformed) :
    (s.step step).session.lastExecution = s.lastExecution ∧
      ∃ text, (s.step step).logs = [⟨.warning, logger, text⟩] := by
  obtain ⟨execution, misfits, ⟨members, hholds, hget⟩, hmisfits⟩ := hmalformed
  obtain ⟨hsession, -, hlogs⟩ := step_of_holds h hholds
  have hmember : (Json.obj members).member? "execution" = some execution := hget
  obtain ⟨text, hremember⟩ := remember_misfits s hmember hmisfits
  rw [hsession, hlogs, hremember]
  exact ⟨rfl, text, rfl⟩

theorem step_of_not_encloses
    (h : ∀ a, s.answer? step = some a → ∀ execution, ¬a.Encloses execution) :
    (s.step step).session.lastExecution = s.lastExecution ∧ (s.step step).logs = [] := by
  cases ha : s.answer? step with
  | none => exact step_of_no_answer ha
  | some a =>
    by_cases hholds : ∃ payload, a.Holds payload
    · obtain ⟨payload, hpayload⟩ := hholds
      have hmember : payload.member? "execution" = none := by
        refine Option.eq_none_iff_forall_ne_some.mpr fun execution hget => ?_
        cases payload with
        | obj members => exact h a ha execution ⟨members, hpayload, hget⟩
        | null | bool | int | float | str | arr => cases hget
      obtain ⟨hsession, -, hlogs⟩ := step_of_holds ha hpayload
      rw [hsession, hlogs, remember_of_not_enclosed s hmember]
      exact ⟨rfl, rfl⟩
    · obtain ⟨hsession, hlogs⟩ := step_of_not_holds ha (not_exists.mp hholds)
      exact ⟨congrArg (·.lastExecution) hsession, hlogs⟩

theorem step_of_not_bears (h : ∀ a, s.answer? step = some a → ∀ record, ¬a.Bears record) :
    (s.step step).session.lastExecution = s.lastExecution := by
  by_cases hmalformed : ∃ a, s.answer? step = some a ∧ a.Malformed
  · obtain ⟨a, ha, hmalformed⟩ := hmalformed
    exact (step_of_malformed ha hmalformed).1
  · apply And.left
    apply step_of_not_encloses
    intro a ha execution hencloses
    obtain ⟨record, hrecord⟩ | hmisfits := hencloses.cases
    · exact h a ha record hrecord
    · exact hmalformed ⟨a, ha, hmisfits⟩

/-- After a step the last execution is the one of its answer, if that bears one, else the one
before. -/
theorem step_lastExecution (s : Session) (step : Step) (record : Json) :
    (s.step step).session.lastExecution = some record ↔
      (∃ a, s.answer? step = some a ∧ a.Bears record) ∨
        ((∀ a, s.answer? step = some a → ∀ other, ¬a.Bears other) ∧
          s.lastExecution = some record) := by
  by_cases hborne : ∃ a other, s.answer? step = some a ∧ a.Bears other
  · obtain ⟨a, other, ha, hother⟩ := hborne
    rw [(step_of_bears ha hother).1]
    constructor
    · rintro ⟨⟩
      exact .inl ⟨a, ha, hother⟩
    · rintro (⟨b, hb, hrecord⟩ | ⟨hnone, -⟩)
      · cases ha.symm.trans hb
        rw [hother.unique hrecord]
      · exact absurd hother (hnone a ha other)
  · have hnone : ∀ a, s.answer? step = some a → ∀ other, ¬a.Bears other :=
      fun a ha other hother => hborne ⟨a, other, ha, hother⟩
    rw [step_of_not_bears hnone]
    constructor
    · exact fun h => .inr ⟨hnone, h⟩
    · rintro (⟨a, ha, hrecord⟩ | ⟨-, h⟩)
      · exact absurd hrecord (hnone a ha record)
      · exact h

end

/-! ## Runs -/

/-- After a run the last execution is the one of the latest answer that bears one, if any does, else
the one before. -/
theorem after_lastExecution (s : Session) (steps : List Step) (record : Json) :
    (s.after steps).lastExecution = some record ↔
      Latest (s.answers steps) record ∨
        ((∀ a ∈ s.answers steps, ∀ other, ¬a.Bears other) ∧ s.lastExecution = some record) := by
  induction steps generalizing s with
  | nil => simp [after, answers, not_latest_nil]
  | cons step rest ih =>
    have hafter : s.after (step :: rest) = (s.step step).session.after rest := rfl
    rw [hafter, ih, step_lastExecution]
    cases ha : s.answer? step with
    | none => simp [answers, ha]
    | some a =>
      simp only [answers, ha, Option.toList_some, List.singleton_append, latest_cons_iff,
        List.mem_cons, forall_eq_or_imp, Option.some.injEq, exists_eq_left', forall_eq']
      rw [and_or_left, or_assoc]
      exact or_congr_right (or_congr_right (and_left_comm.trans and_assoc.symm))

/-- What a step makes of its answer. -/
structure Heeds (s : Session) (step : Step) : Prop where
  /-- A well-formed execution is remembered, whatever becomes of the content beside it. -/
  borne : ∀ a record, s.answer? step = some a → a.Bears record →
    (s.step step).session.lastExecution = some record ∧ (s.step step).logs = []
  malformed : ∀ a, s.answer? step = some a → a.Malformed →
    (s.step step).session.lastExecution = s.lastExecution ∧
      ∃ text, (s.step step).logs = [⟨.warning, logger, text⟩]
  /-- Errors, deletions, downloads, empty and undecodable bodies and bare payloads say nothing of an
  execution. -/
  silent : (∀ a, s.answer? step = some a → ∀ execution, ¬a.Encloses execution) →
    (s.step step).session.lastExecution = s.lastExecution ∧ (s.step step).logs = []
  /-- The content is taken, whether or not the execution beside it is well-formed. -/
  unwrapped : ∀ a payload, s.answer? step = some a → a.Holds payload →
    (s.step step).result = taken a.op.expected (Envelope.content payload)

theorem step_heeds (s : Session) (step : Step) : s.Heeds step where
  borne _ _ := step_of_bears
  malformed _ := step_of_malformed
  silent := step_of_not_encloses
  unwrapped _ _ ha hholds := (step_of_holds ha hholds).2.1

/-- What a session remembers after a run, and how it takes the next step. -/
structure Recalls (s : Session) (steps : List Step) : Prop where
  latest : ∀ record, (s.after steps).lastExecution = some record ↔ Latest (s.answers steps) record
  nothing : (s.after steps).lastExecution = none ↔
    ∀ a ∈ s.answers steps, ∀ record, ¬a.Bears record
  heeds : ∀ step, (s.after steps).Heeds step

theorem latest_or_nothing (answers : List Answer) :
    (∃ record, Latest answers record) ∨ ∀ a ∈ answers, ∀ record, ¬a.Bears record := by
  induction answers with
  | nil => exact .inr nofun
  | cons a rest ih =>
    obtain ⟨record, hlatest⟩ | hnone := ih
    · exact .inl ⟨record, (latest_cons_iff a rest record).mpr (.inl hlatest)⟩
    · by_cases hborne : ∃ record, a.Bears record
      · obtain ⟨record, hrecord⟩ := hborne
        exact .inl ⟨record, (latest_cons_iff a rest record).mpr (.inr ⟨hnone, hrecord⟩)⟩
      · exact .inr (List.forall_mem_cons.mpr ⟨not_exists.mp hborne, hnone⟩)

/-- Every session remembers the latest execution that an answer bore, and nothing until one did. -/
theorem after_recalls {config : Config} {boundary : List Char} {s : Session}
    (hstart : start config boundary = .ok s) (steps : List Step) : s.Recalls steps := by
  obtain ⟨base, -, -, rfl⟩ := (start_eq_ok_iff config boundary s).mp hstart
  have hlatest (record : Json) := after_lastExecution
    ⟨config, base, boundary, config.context, none, false⟩ steps record
  simp only [reduceCtorEq, and_false, or_false] at hlatest
  refine ⟨hlatest, ?_, fun step => step_heeds _ step⟩
  rw [Option.eq_none_iff_forall_ne_some]
  simp only [ne_eq, hlatest]
  constructor
  · intro h
    obtain ⟨record, hrecord⟩ | hnone := latest_or_nothing _
    · exact absurd hrecord (h record)
    · exact hnone
  · intro hnone record hrecord
    obtain ⟨a, ha, hbears⟩ := hrecord.mem
    exact hnone a ha record hbears

end Session

end

namespace Session

/-- Whether the reply to the first request of a session reaches its operation, if it sends one. -/
def reaches? (config : Config) (op : Operation) (r : Reply) : Option Bool :=
  match start config [] with
  | .error _ => none
  | .ok s =>
    match s.request op with
    | .error _ => none
    | .ok _ => some (s.answer? (.call op (.reply r))).isSome

theorem reaches?_eq_some_iff (config : Config) (op : Operation) (r : Reply) (b : Bool) :
    reaches? config op r = some b ↔ ∃ s request, start config [] = .ok s ∧
      s.request op = .ok request ∧ (s.answer? (.call op (.reply r))).isSome = b := by
  rw [reaches?]
  cases start config [] with
  | error e => simp
  | ok s => cases hrequest : s.request op <;> simp [hrequest]

theorem answer?_of_isSome {s : Session} {op : Operation} {r : Reply}
    (h : (s.answer? (.call op (.reply r))).isSome = true) :
    s.answer? (.call op (.reply r)) = some ⟨op, r⟩ := by
  obtain ⟨a, ha⟩ := Option.isSome_iff_exists.mp h
  obtain ⟨hstep, -⟩ := (answer?_eq_some_iff s _ a).mp ha
  cases hstep
  exact ha

theorem answer?_remembering (s : Session) (last : Option Json) (step : Step) :
    ({ s with lastExecution := last } : Session).answer? step = s.answer? step := by
  cases step with
  | call op exchange => cases exchange <;> rfl
  | setContext context => rfl
  | showContext => rfl
  | close => rfl

open scoped Platform

def wellFormed : Bytes := Json.written [("execution", .obj [("execution_id", .str "e-1")])]

def nullExecution : Bytes := Json.written [("execution", .null)]

/-- The normal form of the execution in `wellFormed`. -/
def firstExecution : Json := .obj [("execution_id", .str "e-1"), ("spans", .arr [])]

theorem bears_wellFormed (status : Int) (headers : Headers) (h : ¬(400 ≤ status ∧ status ≤ 599)) :
    Answer.Bears ⟨.health, status, headers, wellFormed⟩ firstExecution := by
  have hdecoded : Json.load wellFormed =
      .ok (.obj [("execution", .obj [("execution_id", .str "e-1")])]) :=
    Json.load_written (by decide) (by decide) (by decide) (by decide +kernel)
  exact ⟨_, ⟨_, ⟨rfl, h, List.cons_ne_nil _ _, hdecoded⟩, rfl⟩, rfl⟩

theorem malformed_nullExecution :
    Answer.Malformed ⟨.health, 200, [], nullExecution⟩ := by
  have hdecoded : Json.load nullExecution = .ok (.obj [("execution", .null)]) :=
    Json.load_written (by decide) (by decide) (by decide) (by decide +kernel)
  exact ⟨_, _, ⟨_, ⟨rfl, by decide, List.cons_ne_nil _ _, hdecoded⟩, rfl⟩, rfl⟩

/-- A malformed execution does not displace the one before it. -/
theorem after_recalls_malformed :
    ∃ s, start (configAt "http://registry.test") [] = .ok s ∧
      (s.after [.call .health (.reply ⟨200, [], wellFormed⟩),
        .call .health (.reply ⟨200, [], nullExecution⟩)]).lastExecution = some firstExecution := by
  have hfirst : reaches? (configAt "http://registry.test") .health ⟨200, [], wellFormed⟩ =
      some true := by decide +kernel
  have hsecond : reaches? (configAt "http://registry.test") .health ⟨200, [], nullExecution⟩ =
      some true := by decide +kernel
  obtain ⟨s, _, hs, -, hfirst⟩ := (reaches?_eq_some_iff _ _ _ _).mp hfirst
  obtain ⟨s', _, hs', -, hsecond⟩ := (reaches?_eq_some_iff _ _ _ _).mp hsecond
  cases hs.symm.trans hs'
  refine ⟨s, hs, ((after_recalls hs _).latest _).mpr ⟨[], ⟨.health, 200, [], wellFormed⟩,
    [⟨.health, 200, [], nullExecution⟩], ?_, bears_wellFormed 200 [] (by decide), ?_⟩⟩
  · obtain ⟨last, hlast⟩ := perform_session s .health (.reply ⟨200, [], wellFormed⟩)
    simp [answers, answer?_of_isSome hfirst, Session.step, hlast, answer?_remembering,
      answer?_of_isSome hsecond]
  · intro b hb other hother
    obtain rfl := List.mem_singleton.mp hb
    exact hother.not_malformed malformed_nullExecution

/-- A fresh session sends a request, and forgets the execution that the reply bears. -/
def Loses (config : Config) (op : Operation) (r : Reply) (record : Json) : Prop :=
  ∃ s request, start config [] = .ok s ∧ s.request op = .ok request ∧
    Answer.Bears ⟨op, r⟩ record ∧ (s.after [.call op (.reply r)]).lastExecution = none

theorem loses_of_not_reaches {config : Config} {op : Operation} {r : Reply} {record : Json}
    (h : reaches? config op r = some false) (hbears : Answer.Bears ⟨op, r⟩ record) :
    Loses config op r record := by
  obtain ⟨s, request, hs, hrequest, hlost⟩ := (reaches?_eq_some_iff _ _ _ _).mp h
  refine ⟨s, request, hs, hrequest, hbears, ?_⟩
  have hnone : s.answer? (.call op (.reply r)) = none := by simpa using hlost
  have hkept := (step_of_no_answer hnone).1
  obtain ⟨base, -, -, rfl⟩ := (start_eq_ok_iff _ _ _).mp hs
  exact hkept

/-- A reply that points to a wrong place, and one to a request without a scheme, are lost with the
executions in them. -/
theorem after_forgets :
    Loses (configAt "http://registry.test") .health
        ⟨302, [("Location", "http://registry.test:bad/")], wellFormed⟩ firstExecution ∧
      Loses (configAt "") .health ⟨200, [], wellFormed⟩ firstExecution := by
  constructor
  · apply loses_of_not_reaches
    · decide +kernel
    · exact bears_wellFormed 302 _ (by decide)
  · apply loses_of_not_reaches
    · decide +kernel
    · exact bears_wellFormed 200 _ (by decide)

end Session

end RegistryGateway.Client
