import RegistryGateway.Proofs.Dispatch
import RegistryGateway.Proofs.Strictness
import RegistryGateway.Proofs.Time
import Mathlib.Data.List.Nodup

/-! The answers of the built-in agents against the published contracts.  Agents echo parts of their
body as they are, so what they answer depends on the bodies that they are called with.  Behind
strict validation those conform to the published requests, null and scores apart; null overrides are
the only such value that is echoed, and it is echoed as an empty object.  So every answer conforms
to its published response as it stands. -/

namespace RegistryGateway

open Schema

section

variable [Platform]

namespace Schema

variable {rigour : Rigour}

/-- A required member is there and conforms. -/
theorem MembersConform.get?_required {names : List String} {properties : List (String × Schema)}
    {closed : Bool} {members : List (String × Json)}
    (h : MembersConform rigour names properties closed members) {name : String} {schema : Schema}
    (hname : name ∈ names) (hschema : (name, schema) ∈ properties) :
    ∃ v, Assoc.get? members name = some v ∧ schema.conforms rigour v = true := by
  obtain ⟨v, hv⟩ := (Assoc.contains_iff members name).mp (h.present name hname)
  have hnone : tolerates rigour names name v = false := by
    cases rigour <;> simp [tolerates, hname]
  obtain htolerated | hconforms := h.property _ hschema v hv
  · rw [hnone] at htolerated
    cases htolerated
  · exact ⟨v, hv, hconforms⟩

/-- An object with one conforming member for each property conforms. -/
theorem conforms_of_members {names : List String} (fields : List (String × Schema × Json))
    (hnodup : (fields.map (·.1)).Nodup) (hnames : ∀ name ∈ names, name ∈ fields.map (·.1))
    (hfields : ∀ f ∈ fields, f.2.1.conforms rigour f.2.2 = true) :
    conforms rigour
      [.type .object, .required names, .properties (fields.map fun f => (f.1, f.2.1))]
      (.obj (fields.map fun f => (f.1, f.2.2))) = true := by
  refine (conforms_open_iff _ _).mpr ⟨_, rfl, fun name hname => ?_, fun p hp v hv => ?_, nofun⟩
  · simpa [Assoc.contains] using hnames name hname
  · obtain ⟨f, hf, rfl⟩ := List.mem_map.mp hp
    obtain ⟨g, hg, hmember⟩ := List.mem_map.mp (Assoc.mem_of_get? hv)
    obtain ⟨hkey, rfl⟩ := Prod.mk.inj hmember
    obtain rfl := List.inj_on_of_nodup_map hnodup hg hf hkey
    exact .inr (hfields g hg)

end Schema

/-- What an agent publishes at some time: data that conform to its published response, and that are
dated to that time if they are dated. -/
structure Published (name : String) (now : Timestamp) (c : Contract) (data : Json) : Prop where
  conforms : c.response.conforms .exact data = true
  dated : name = "reputation" → data.member? "last_updated" = some (.str now.iso)

namespace Agent

open Contract (conforms_string_iff conforms_oneOf_iff tolerates_lenient_iff)

/-- The index agent echoes the mode, which is text. -/
theorem index_published {body data : Json} {output : AgentOutput} (now : Timestamp)
    (h : Contract.index.request.conforms .lenient body = true)
    (houtput : index.answer body = .ok output) (hdata : output.data = .ok data) :
    Published "index" now Contract.index data := by
  obtain ⟨members, rfl, hmembers⟩ := (conforms_closed_iff _ _).mp h
  obtain ⟨mode, hmode, htext⟩ := hmembers.get?_required (.head _) (.tail _ (.head _))
  obtain ⟨text, -, rfl⟩ := (conforms_oneOf_iff _ _ _).mp htext
  simp only [index.answer, optionalMember, requiredMember, hmode] at houtput
  cases houtput
  obtain ⟨_, hwritten, hdata⟩ := bind_eq_ok hdata
  obtain ⟨-, rfl⟩ := written?_eq_ok_iff.mp hwritten
  cases hdata
  refine ⟨conforms_of_members
    [("indexed_count", _, .int _), ("failed_count", _, .int 0), ("mode", _, .str text),
      ("errors", _, .arr [])] (by simp) (by simp) ?_, nofun⟩
  simp only [List.forall_mem_cons]
  exact ⟨rfl, rfl, rfl, rfl, nofun⟩

/-- The reputation agent echoes the agent it was asked for, which is text. -/
theorem reputation_published {body data : Json} {output : AgentOutput} (now : Timestamp)
    (h : Contract.reputation.request.conforms .lenient body = true)
    (houtput : reputation.answer body now = .ok output) (hdata : output.data = .ok data) :
    Published "reputation" now Contract.reputation data := by
  obtain ⟨members, rfl, hmembers⟩ := (conforms_closed_iff _ _).mp h
  obtain ⟨agent, hagent, htext⟩ := hmembers.get?_required (.head _) (.head _)
  obtain ⟨text, rfl⟩ := (conforms_string_iff _ _).mp htext
  simp only [reputation.answer, requiredMember, hagent] at houtput
  cases houtput
  obtain ⟨_, hwritten, hdata⟩ := bind_eq_ok hdata
  obtain ⟨-, rfl⟩ := written?_eq_ok_iff.mp hwritten
  cases hdata
  refine ⟨conforms_of_members
    [("agent_id", _, .str text), ("overall_score", _, .int 0), ("category_scores", _, .obj _),
      ("signal_count", _, .int 0), ("last_updated", _, .str now.iso)] (by simp) (by simp) ?_,
    fun _ => rfl⟩
  simp only [List.forall_mem_cons]
  exact ⟨rfl, rfl, rfl, rfl, rfl, nofun⟩

/-- The overrides that the bootstrap agent echoes are an object, also where they are null or
missing. -/
theorem bootstrap_overrides {names : List String} {properties : List (String × Schema)}
    {members : List (String × Json)} (h : MembersConform .lenient names properties true members)
    (hschema : ("config_overrides", [.type .object]) ∈ properties) :
    ∃ entries,
      (if ((Assoc.get? members "config_overrides").getD .null).isNull then .obj []
        else (Assoc.get? members "config_overrides").getD .null) = Json.obj entries := by
  cases hv : Assoc.get? members "config_overrides" with
  | none => exact ⟨[], rfl⟩
  | some v =>
    obtain htolerated | hconforms := h.property _ hschema v hv
    · obtain ⟨rfl, -⟩ := (tolerates_lenient_iff _ _ _).mp htolerated
      exact ⟨[], rfl⟩
    · obtain ⟨entries, rfl, -⟩ := (conforms_object_iff rfl).mp hconforms
      exact ⟨entries, rfl⟩

/-- The bootstrap agent echoes names, which are text, and overrides. -/
theorem bootstrap_published {baseUrl : String} {body data : Json} {s : Sources}
    {output : AgentOutput} (h : Contract.bootstrap.request.conforms .lenient body = true)
    (houtput : (bootstrap.answer baseUrl body s).1 = .ok output) (hdata : output.data = .ok data) :
    Published "bootstrap" s.now Contract.bootstrap data := by
  obtain ⟨members, rfl, hmembers⟩ := (conforms_closed_iff _ _).mp h
  obtain ⟨template, htemplate, htext⟩ := hmembers.get?_required (.head _) (.head _)
  obtain ⟨templateText, rfl⟩ := (conforms_string_iff _ _).mp htext
  obtain ⟨agent, hagent, htext⟩ := hmembers.get?_required (.tail _ (.head _)) (.tail _ (.head _))
  obtain ⟨agentText, rfl⟩ := (conforms_string_iff _ _).mp htext
  obtain ⟨entries, hentries⟩ := bootstrap_overrides hmembers (.tail _ (.tail _ (.head _)))
  simp only [bootstrap.answer, optionalMember, requiredMember, hagent, htemplate] at houtput
  cases houtput
  simp only [AgentOutput.data, bootstrap.report, hentries] at hdata
  obtain ⟨_, hagent, hdata⟩ := bind_eq_ok hdata
  obtain ⟨_, htemplate, hdata⟩ := bind_eq_ok hdata
  obtain ⟨_, hconfig, hdata⟩ := bind_eq_ok hdata
  obtain ⟨-, rfl⟩ := written?_eq_ok_iff.mp hagent
  obtain ⟨-, rfl⟩ := written?_eq_ok_iff.mp htemplate
  obtain ⟨-, rfl⟩ := written?_eq_ok_iff.mp hconfig
  cases hdata
  refine ⟨conforms_of_members
    [("agent_id", _, .str _), ("agent_name", _, .str agentText),
      ("template_id", _, .str templateText), ("status", _, .str "created"),
      ("config_applied", _, .obj _), ("endpoints", _, .obj _)] (by simp) (by simp) ?_,
    fun h => absurd h (by decide)⟩
  simp only [List.forall_mem_cons]
  exact ⟨rfl, rfl, rfl, rfl, rfl, rfl, fun _ h => absurd h List.not_mem_nil⟩

end Agent

/-- Asked with a body that conforms to its published request, null and scores apart, an agent of the
default registry publishes data. -/
theorem AgentRegistry.default_published {baseUrl : Option String} {fallback name : String}
    {c : Contract} (hc : Contract.table.get? name = some c) {body data : Json} {s : Sources}
    (hbody : c.request.conforms .lenient body = true)
    (hgives : (AgentRegistry.default baseUrl fallback).Gives name body s data) :
    Published name s.now c data := by
  obtain ⟨agent, output, hagent, houtput, hdata⟩ := gives_iff.mp hgives
  obtain ⟨rfl, rfl⟩ | ⟨rfl, rfl⟩ | ⟨rfl, rfl⟩ := Contract.table_cases hc
  · cases hagent
    exact Agent.index_published s.now hbody houtput hdata
  · cases hagent
    exact Agent.reputation_published s.now hbody houtput hdata
  · obtain ⟨url, hurl⟩ : ∃ url, Agent.bootstrapAt baseUrl fallback = .bootstrap url := by
      cases baseUrl <;> exact ⟨_, rfl⟩
    have hget : (AgentRegistry.default baseUrl fallback).get? "bootstrap" =
        some (.bootstrap url) := by
      simp [AgentRegistry.default, AgentRegistry.get?, hurl, Agent.name]
    cases hget.symm.trans hagent
    exact Agent.bootstrap_published hbody houtput hdata

namespace Router

/-- Every success on the route of an agent answers with data that conform to the published response
of the agent, and that have a date of the usual form if the agent is that of reputations. -/
def AnswersAsPublished (request : InboundRequest) (handled : Handled) : Prop :=
  ∀ path name response, request.resolvePath = .ok path → (path, name) ∈ Route.agentPaths →
    handled.outcome = .ok response → response.status = 200 →
    ∃ c data, Contract.table.get? name = some c ∧ Answers response 200 [("data", data)] ∧
      c.response.conforms .exact data = true ∧
      (name = "reputation" → ∃ text, data.member? "last_updated" = some (.str text) ∧
        Timestamp.Formed text)

/-- The router of the default registry that checks bodies strictly. -/
def strictDefault (baseUrl : Option String) (fallback : String) (sink : TraceSink)
    (service : String) (traceEnabled : Bool) : Router :=
  ⟨.default baseUrl fallback, sink, service, true, traceEnabled⟩

section

variable (baseUrl : Option String) (fallback : String) (sink : TraceSink) (service : String)
  (traceEnabled : Bool)

/-- A success that is left behind on the route of an agent is that of the agent, and its body got
through strict validation. -/
theorem Exit.published {request : InboundRequest} {path name traceId : String} {c : Contract}
    {s : Sources} {d : Dispatched}
    (h : Exit (strictDefault baseUrl fallback sink service traceEnabled) request path traceId s d)
    (hp : Route.ofPath path = .agent name) (hc : Contract.table.get? name = some c)
    (hstatus : d.reply.status = 200) :
    ∃ data, d.reply.payload = [("data", data)] ∧ Published name s.now c data := by
  cases h with
  | health hp' | contracts hp' | unknown hp' => cases hp.symm.trans hp'
  | wrongMethod | rejected | failed => cases hstatus
  | answered hp' _ hfound hrun =>
    cases hp.symm.trans hp'
    obtain ⟨-, htyped⟩ := (Contract.strictRejection_eq_ok_none_iff hc request.body).mp hfound
    have hbody := (Contract.typeRejection_eq_none_iff_conforms hc request.body).mp htyped
    have hpublished := AgentRegistry.default_published hc hbody (Executor.gives_of_run hrun)
    rw [Sources.tick_now] at hpublished
    exact ⟨_, rfl, hpublished⟩

theorem handle_answers_as_published (request : InboundRequest) {s : Sources}
    (hs : s.now.InCalendar) :
    AnswersAsPublished request
      ((strictDefault baseUrl fallback sink service traceEnabled).handle request s) := by
  intro path name response hp hagent hresponse hstatus
  by_cases hm : request.method = "OPTIONS"
  · rw [handle_options _ s hm] at hresponse
    cases hresponse
    cases hstatus
  have hroute : Route.ofPath path = .agent name := (Route.ofPath_eq_agent_iff path name).mpr hagent
  obtain ⟨c, hc⟩ : ∃ c, Contract.table.get? name = some c := by
    have hnames : ∀ p ∈ Route.agentPaths, ∃ c, Contract.table.get? p.2 = some c := by
      simp [Route.agentPaths, Contract.table, Assoc.get?_cons]
    exact hnames _ hagent
  rw [handle_resolved _ s hm hp] at hresponse
  cases hresponse
  have hexit :=
    (strictDefault baseUrl fallback sink service traceEnabled).dispatched_exit request path s
  obtain ⟨data, hdata, hpublished⟩ :=
    hexit.published baseUrl fallback sink service traceEnabled hroute hc hstatus
  have hbody := hexit.body
    ((strictDefault baseUrl fallback sink service traceEnabled).metadata request s).1
  rw [hdata] at hbody
  rw [metadata_now] at hpublished
  exact ⟨c, data, hc, ⟨hstatus, _, _, hbody⟩, hpublished.conforms, fun hname =>
    ⟨_, hpublished.dated hname, Timestamp.iso_formed hs⟩⟩

/-- Along every run of the strict router of the default registry, the successes of the agents answer
as published. -/
theorem handleAll_answers_as_published (requests : List InboundRequest) {s : Sources}
    (hs : s.now.InCalendar) :
    List.Forall₂ AnswersAsPublished requests
      ((strictDefault baseUrl fallback sink service traceEnabled).handleAll requests s) := by
  induction requests generalizing s with
  | nil => exact .nil
  | cons request rest ih =>
    refine .cons (handle_answers_as_published _ _ _ _ _ request hs) (ih ?_)
    rwa [handle_now]

end

end Router

end

namespace Router

open scoped Platform in
/-- Null overrides are answered as published. -/
theorem handleAll_answers_as_published_overrides :
    ∃ response data,
      ((strictDefault none "https://registry.test" .memory "registry" true).handle
        ⟨"POST", some "/v1/registry/bootstrap", "/", [],
          .obj [("template_id", .str "t"), ("agent_name", .str "a"), ("config_overrides", .null)]⟩
        ⟨0, ⟨2026, 1, 1, 0, 0, 0, 0⟩, []⟩).outcome = .ok response ∧
      Answers response 200 [("data", data)] ∧
      Contract.bootstrap.response.conforms .exact data = true := by
  obtain _ | ⟨hanswers, -⟩ := handleAll_answers_as_published none "https://registry.test" .memory
    "registry" true
    [⟨"POST", some "/v1/registry/bootstrap", "/", [],
      .obj [("template_id", .str "t"), ("agent_name", .str "a"), ("config_overrides", .null)]⟩]
    (s := ⟨0, ⟨2026, 1, 1, 0, 0, 0, 0⟩, []⟩) (by constructor <;> decide)
  have hstatus : ((strictDefault none "https://registry.test" .memory "registry" true).handle
        ⟨"POST", some "/v1/registry/bootstrap", "/", [],
          .obj [("template_id", .str "t"), ("agent_name", .str "a"), ("config_overrides", .null)]⟩
        ⟨0, ⟨2026, 1, 1, 0, 0, 0, 0⟩, []⟩).outcome.toOption.map (·.status) = some 200 := by
    decide +kernel
  generalize Router.handle _ _ _ = handled at hanswers hstatus ⊢
  cases houtcome : handled.outcome with
  | error fault => simp [houtcome, Except.toOption] at hstatus
  | ok response =>
    have hsuccess : response.status = 200 := by simpa [houtcome, Except.toOption] using hstatus
    obtain ⟨c, data, hc, hanswer, hconforms, -⟩ :=
      hanswers "/v1/registry/bootstrap" "bootstrap" response rfl (by decide) houtcome hsuccess
    cases hc
    exact ⟨response, data, rfl, hanswer, hconforms⟩

end Router

end RegistryGateway
