import RegistryGateway.Proofs.Dispatch
import RegistryGateway.Proofs.Legibility
import RegistryGateway.Proofs.Strictness

/-! The answers of the built-in agents under structural validation.  A body that has the keys of its
contract is answered whatever the types of its values, and the values that an agent takes from it
are echoed as they are: the same kinds, the same order of keys, at every depth, in memory and on the
wire.  Only a double that is not finite could be changed on the way, and only a value that the
platform cannot write keeps the body from being echoed. -/

namespace RegistryGateway

namespace Json

theorem member?_eq_some_iff (v : Json) (key : String) (found : Json) :
    v.member? key = some found ↔
      ∃ members, v = .obj members ∧ Assoc.get? members key = some found := by
  cases v <;> simp [member?]

theorem all_of_member? {p : Json → Bool} {v found : Json} {key : String} (hv : v.all p = true)
    (h : v.member? key = some found) : found.all p = true := by
  obtain ⟨members, rfl, hget⟩ := (member?_eq_some_iff v key found).mp h
  exact all_of_get? (Bool.and_eq_true_iff.mp hv).2 hget

end Json

/-! ## What the agents answer -/

/-- How many assets a body names: the items of a list, the characters of a text, none otherwise. -/
def namedAssets (body : Json) : Nat :=
  match body.member? "asset_ids" with
  | some (.arr items) => items.length
  | some (.str text) => text.length
  | _ => 0

/-- The overrides that a body asks for: none where they are missing or null, and whatever stands
there otherwise. -/
def appliedOverrides (body : Json) : Json :=
  match body.member? "config_overrides" with
  | none | some .null => .obj []
  | some overrides => overrides

/-- The public origin of the service: the one that is given, or the fallback where that is missing
or empty. -/
def publicOrigin (baseUrl : Option String) (fallback : String) : String :=
  match baseUrl with
  | none => fallback
  | some url => if url = "" then fallback else url

/-- What an agent answers to a body, with the values of the body as they are. -/
inductive Echoes (origin : String) (now : Timestamp) (id : String) (body : Json) :
    String → Json → Prop
  | index {mode : Json} :
      body.member? "mode" = some mode →
      Echoes origin now id body "index"
        (.obj
          [("indexed_count", .int (namedAssets body)), ("failed_count", .int 0), ("mode", mode),
            ("errors", .arr [])])
  | reputation {agent : Json} :
      body.member? "agent_id" = some agent →
      Echoes origin now id body "reputation"
        (.obj
          [("agent_id", agent), ("overall_score", .int 0),
            ("category_scores", .obj
              [("reliability", .int 0), ("accuracy", .int 0), ("latency", .int 0),
                ("compliance", .int 0)]),
            ("signal_count", .int 0), ("last_updated", .str now.iso)])
  | bootstrap {agent template : Json} :
      body.member? "agent_name" = some agent → body.member? "template_id" = some template →
      Echoes origin now id body "bootstrap"
        (.obj
          [("agent_id", .str id), ("agent_name", agent), ("template_id", template),
            ("status", .str "created"), ("config_applied", appliedOverrides body),
            ("endpoints", .obj
              [("health", .str (origin ++ "/health")),
                ("invoke", .str (origin ++ "/v1/registry/bootstrap"))])])

/-- The values of a body that an agent writes out again, in the order in which it does. -/
def echoedValues (name : String) (body : Json) : List Json :=
  match name with
  | "index" => (body.member? "mode").toList
  | "reputation" => (body.member? "agent_id").toList
  | "bootstrap" =>
    (body.member? "agent_name").toList ++ (body.member? "template_id").toList ++
      [appliedOverrides body]
  | _ => []

/-- Why a body is not echoed: the fault of the first value that cannot be written. -/
def echoFault? [Platform] (name : String) (body : Json) : Option Raised :=
  (echoedValues name body).findSome? Platform.writeFault?

/-- What an agent reports of a body: what echoes it, or why that cannot be written. -/
def Reports [Platform] (origin : String) (now : Timestamp) (id : String) (body : Json)
    (name : String) (written : Except Failure Json) : Prop :=
  match echoFault? name body with
  | some e => written = .error (.raised e)
  | none => ∃ data, written = .ok data ∧ Echoes origin now id body name data

theorem all_appliedOverrides {p : Json → Bool} (hp : Json.Mild p) {body : Json}
    (hbody : body.all p = true) : (appliedOverrides body).all p = true := by
  rw [appliedOverrides]
  split
  · exact Bool.and_eq_true_iff.mpr ⟨hp.obj [] List.nodup_nil, rfl⟩
  · exact Bool.and_eq_true_iff.mpr ⟨hp.obj [] List.nodup_nil, rfl⟩
  next h => exact Json.all_of_member? hbody h

/-- What is echoed meets a mild condition that the body meets, if the count does. -/
theorem Echoes.all {origin id name : String} {now : Timestamp} {body data : Json}
    (h : Echoes origin now id body name data) {p : Json → Bool} (hp : Json.Mild p)
    (hbody : body.all p = true) (hcount : p (.int (namedAssets body)) = true) :
    data.all p = true := by
  have hzero : p (.int 0) = true := hp.int 0 (Nat.pow_pos (by decide))
  cases h with
  | index hmode =>
    have hmode := Json.all_of_member? hbody hmode
    simp [Json.all, Json.allMembers, Json.allItems, hp.obj, hp.arr, hcount, hzero, hmode,
      Assoc.keys]
  | reputation hagent =>
    have hagent := Json.all_of_member? hbody hagent
    simp [Json.all, Json.allMembers, hp.obj, hp.str, hzero, hagent, Assoc.keys]
  | bootstrap hagent htemplate =>
    have hagent := Json.all_of_member? hbody hagent
    have htemplate := Json.all_of_member? hbody htemplate
    have hoverrides := all_appliedOverrides hp hbody
    simp [Json.all, Json.allMembers, hp.obj, hp.str, hagent, htemplate, hoverrides, Assoc.keys]

namespace Agent

theorem requiredMember_eq_ok_iff (body : Json) (key : String) (v : Json) :
    requiredMember body key = .ok v ↔ body.member? key = some v := by
  cases body with
  | obj members => cases h : Assoc.get? members key <;> simp [requiredMember, Json.member?, h]
  | null | bool | int | float | str | arr => simp [requiredMember, Json.member?]

/-- In a body that has some member, one that may be missing is null where it is. -/
theorem optionalMember_of_member? {body v : Json} {key : String} (h : body.member? key = some v)
    (other : String) : optionalMember body other = .ok ((body.member? other).getD .null) := by
  obtain ⟨members, rfl, -⟩ := (Json.member?_eq_some_iff body key v).mp h
  rfl

theorem assetCount_member? (body : Json) :
    assetCount ((body.member? "asset_ids").getD .null) = namedAssets body := by
  rw [namedAssets]
  cases body.member? "asset_ids" with
  | none => rfl
  | some v => cases v <;> rfl

theorem overrides_member? (body : Json) :
    (if ((body.member? "config_overrides").getD .null).isNull = true then .obj []
      else (body.member? "config_overrides").getD .null) = appliedOverrides body := by
  rw [appliedOverrides]
  cases body.member? "config_overrides" with
  | none => rfl
  | some v => cases v <;> rfl

theorem allFinite_of_member? {body v : Json} {key : String} (hfinite : body.allFinite = true)
    (h : body.member? key = some v) : v.allFinite = true := by
  rw [← Json.all_finiteDouble] at hfinite ⊢
  exact Json.all_of_member? hfinite h

section

variable [Platform]

/-- A value without infinite doubles is written as it is, if at all. -/
theorem written?_of_allFinite {v : Json} (h : v.allFinite = true) :
    v.written? =
      match Platform.writeFault? v with
      | some e => .error (.raised e)
      | none => .ok v := by
  rw [Json.written?]
  cases Platform.writeFault? v with
  | some e => rfl
  | none => exact congrArg Except.ok (Json.finite_of_allFinite v h)

variable {body : Json} (hfinite : body.allFinite = true)

include hfinite

theorem index_reports (origin id : String) (now : Timestamp) {mode : Json}
    (h : body.member? "mode" = some mode) :
    ∃ written, index.answer body = .ok (.record written) ∧
      Reports origin now id body "index" written := by
  have hmode := (requiredMember_eq_ok_iff body "mode" mode).mpr h
  have hwritten := written?_of_allFinite (allFinite_of_member? hfinite h)
  refine ⟨_, by rw [index.answer, optionalMember_of_member? h, hmode]; rfl, ?_⟩
  rw [index.report, hwritten, assetCount_member?, Reports, echoFault?, echoedValues, h]
  cases hfault : Platform.writeFault? mode with
  | some e => simp [hfault, bind, Except.bind]
  | none =>
    simp only [Option.toList_some, List.findSome?_cons, hfault, List.findSome?_nil]
    exact ⟨_, rfl, .index h⟩

theorem reputation_reports (origin id : String) (now : Timestamp) {agent : Json}
    (h : body.member? "agent_id" = some agent) :
    ∃ written, reputation.answer body now = .ok (.record written) ∧
      Reports origin now id body "reputation" written := by
  have hagent := (requiredMember_eq_ok_iff body "agent_id" agent).mpr h
  have hwritten := written?_of_allFinite (allFinite_of_member? hfinite h)
  refine ⟨_, by rw [reputation.answer, hagent]; rfl, ?_⟩
  rw [reputation.report, hwritten, Reports, echoFault?, echoedValues, h]
  cases hfault : Platform.writeFault? agent with
  | some e => simp [hfault, bind, Except.bind]
  | none =>
    simp only [Option.toList_some, List.findSome?_cons, hfault, List.findSome?_nil]
    exact ⟨_, rfl, .reputation h⟩

theorem bootstrap_reports (origin : String) (now : Timestamp) {agent template : Json}
    (hagent : body.member? "agent_name" = some agent)
    (htemplate : body.member? "template_id" = some template) (s : Sources) :
    ∃ written, bootstrap.answer origin body s = (.ok (.record written), s.fresh.2) ∧
      Reports origin now s.fresh.1 body "bootstrap" written := by
  have hname := (requiredMember_eq_ok_iff body "agent_name" agent).mpr hagent
  have hid := (requiredMember_eq_ok_iff body "template_id" template).mpr htemplate
  have hagentWritten := written?_of_allFinite (allFinite_of_member? hfinite hagent)
  have htemplateWritten := written?_of_allFinite (allFinite_of_member? hfinite htemplate)
  have hoverrides : (appliedOverrides body).allFinite = true := by
    rw [← Json.all_finiteDouble] at hfinite ⊢
    exact all_appliedOverrides Json.finiteDouble_mild hfinite
  have hoverridesWritten := written?_of_allFinite hoverrides
  refine ⟨_, by
    rw [bootstrap.answer, optionalMember_of_member? hagent]
    simp only [hname, hid]
    rfl, ?_⟩
  rw [bootstrap.report, overrides_member?, hagentWritten, htemplateWritten, hoverridesWritten,
    Reports, echoFault?, echoedValues, hagent, htemplate]
  -- The values are written in this order, and the first fault ends the report.
  cases hfirst : Platform.writeFault? agent with
  | some e => simp [hfirst, bind, Except.bind]
  | none =>
    cases hsecond : Platform.writeFault? template with
    | some e => simp [hfirst, hsecond, bind, Except.bind]
    | none =>
      cases hthird : Platform.writeFault? (appliedOverrides body) with
      | some e => simp [hfirst, hsecond, hthird, bind, Except.bind]
      | none =>
        simp only [Option.toList_some, List.cons_append, List.nil_append, List.findSome?_cons,
          hfirst, hsecond, hthird, List.findSome?_nil]
        exact ⟨_, rfl, .bootstrap hagent htemplate⟩

end

end Agent

namespace Contract

/-- Every agent with a path has a contract in the table. -/
theorem get?_of_agentPaths {path name : String} (h : (path, name) ∈ Route.agentPaths) :
    ∃ c, table.get? name = some c := by
  have hnames : ∀ p ∈ Route.agentPaths, (table.get? p.2).isSome = true := by decide
  exact Option.isSome_iff_exists.mp (hnames _ h)

/-- A body that is accepted by its keys has every member that its contract requires. -/
theorem member_of_structural {name : String} {c : Contract} (hc : table.get? name = some c)
    {body : Json} (h : structuralRejection name body = .ok none) {key : String}
    (hkey : key ∈ c.request.requiredNames) : ∃ v, body.member? key = some v := by
  have hschema : requestSchema name = .ok c.request := by simp only [requestSchema, hc]
  cases body with
  | obj members =>
    have hkeys : keyRejection c.request members = none := by
      simpa [structuralRejection, hschema, Except.map] using h
    obtain ⟨hpresent, -⟩ := (keyRejection_eq_none_iff _ _).mp hkeys
    exact (Assoc.contains_iff members key).mp (hpresent key hkey)
  | null | bool | int | float | str | arr => cases h

end Contract

namespace AgentRegistry

/-- The bootstrap agent of the default registry hands out the public origin. -/
theorem default_get?_bootstrap (baseUrl : Option String) (fallback : String) :
    (AgentRegistry.default baseUrl fallback).get? "bootstrap" =
      some (.bootstrap (publicOrigin baseUrl fallback)) := by
  have hagent : Agent.bootstrapAt baseUrl fallback = .bootstrap (publicOrigin baseUrl fallback) := by
    cases baseUrl <;> rfl
  rw [AgentRegistry.default, hagent]
  rfl

/-- An agent of the default registry reports of every body that its contract accepts by its keys. -/
theorem default_reports [Platform] (baseUrl : Option String) (fallback : String) {name : String}
    {c : Contract} (hc : Contract.table.get? name = some c) {body : Json}
    (hbody : Contract.structuralRejection name body = .ok none) (hfinite : body.allFinite = true)
    (s : Sources) :
    ∃ agent written, (AgentRegistry.default baseUrl fallback).get? name = some agent ∧
      (agent.execute body s).1 = .ok (.record written) ∧
      Reports (publicOrigin baseUrl fallback) s.now s.fresh.1 body name written := by
  have hmember (key : String) (hkey : key ∈ c.request.requiredNames) :
      ∃ v, body.member? key = some v := Contract.member_of_structural hc hbody hkey
  obtain ⟨rfl, rfl⟩ | ⟨rfl, rfl⟩ | ⟨rfl, rfl⟩ := Contract.table_cases hc
  · obtain ⟨mode, hmode⟩ := hmember "mode" (by decide)
    obtain ⟨written, hanswer, hreports⟩ := Agent.index_reports hfinite _ _ _ hmode
    exact ⟨.index, written, rfl, hanswer, hreports⟩
  · obtain ⟨agent, hagent⟩ := hmember "agent_id" (by decide)
    obtain ⟨written, hanswer, hreports⟩ := Agent.reputation_reports hfinite _ _ s.now hagent
    exact ⟨.reputation, written, rfl, hanswer, hreports⟩
  · obtain ⟨agent, hagent⟩ := hmember "agent_name" (by decide)
    obtain ⟨template, htemplate⟩ := hmember "template_id" (by decide)
    obtain ⟨written, hanswer, hreports⟩ :=
      Agent.bootstrap_reports hfinite (publicOrigin baseUrl fallback) s.now hagent htemplate s
    exact ⟨_, written, default_get?_bootstrap baseUrl fallback, congrArg Prod.fst hanswer,
      hreports⟩

end AgentRegistry

/-! ## The answers of the service -/

namespace Router

section

variable [Platform]

/-- Data that can be read are read off the bytes of the response with them. -/
theorem Exit.read_back {r : Router} {request : InboundRequest} {path traceId : String} {s : Sources}
    {d : Dispatched} {data : Json} (h : Exit r request path traceId s d) (m : ExecutionMetadata)
    (hpayload : d.reply.payload = [("data", data)]) (hkeys : data.all Json.distinctKeys = true)
    (hfinite : data.allFinite = true) (hdigits : data.all Json.withinDigits = true) :
    ∃ members, Json.decode (Utf8.encode (envelope m d.reply).wire.toList) = .ok (.obj members) ∧
      Assoc.get? members "data" = some data := by
  have hall {p : Json → Bool} (hp : Json.Mild p) (hdata : data.all p = true) :
      (Json.obj (d.reply.payload ++ closing m d.reply)).all p = true := by
    refine h.all hp m fun found hfound => ?_
    rw [hpayload] at hfound
    rwa [← Option.some.inj hfound]
  rw [← Json.all_finiteDouble] at hfinite
  have hbody := hall Json.finiteDouble_mild hfinite
  rw [Json.all_finiteDouble] at hbody
  rw [OutboundResponse.wire_of_body (h.body m)]
  refine ⟨_, Json.decode_written (hall Json.distinctKeys_mild hkeys) hbody
    (hall Json.withinDigits_mild hdigits), ?_⟩
  rw [hpayload]
  rfl

/-- The router of the default registry that checks the keys of bodies only. -/
def structuralDefault (baseUrl : Option String) (fallback : String) (sink : TraceSink)
    (service : String) (traceEnabled : Bool) : Router :=
  ⟨.default baseUrl fallback, sink, service, false, traceEnabled⟩

end

end Router

end RegistryGateway
