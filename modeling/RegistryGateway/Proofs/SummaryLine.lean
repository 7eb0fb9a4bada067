import RegistryGateway.Proofs.Envelope
import RegistryGateway.Proofs.Identity
import RegistryGateway.Proofs.RequestQuery
import RegistryGateway.Proofs.Resolution
import RegistryGateway.Proofs.SinkRecords

/-! The summary line of a request.  A sink that writes lines logs one record for each request other
than OPTIONS that got a response.  The error in it is quoted, and a path that was read off a URL has
no line breaks; but the correlation id, the method and an explicit path stand in it as they are, so
these are what can break the line. -/

namespace RegistryGateway

/-! ## Line breaks -/

def isBreak (c : Char) : Bool := c = '\n' || c = '\r'

/-- No line feed and no carriage return. -/
def Unbroken (s : String) : Prop := ∀ c ∈ s.toList, isBreak c = false

theorem unbroken_iff (s : String) : Unbroken s ↔ s.toList.all (!isBreak ·) = true := by
  simp [Unbroken]

instance (s : String) : Decidable (Unbroken s) := decidable_of_iff _ (unbroken_iff s).symm

/-- A character is no line break if it meets a test that the line breaks fail. -/
theorem isBreak_of_test {p : Char → Bool} (hfeed : p '\n' = false) (hreturn : p '\r' = false)
    {c : Char} (h : p c = true) : isBreak c = false := by
  rw [isBreak, Bool.or_eq_false_iff, decide_eq_false_iff_not, decide_eq_false_iff_not]
  constructor
  · rintro rfl
    exact absurd h (Bool.eq_false_iff.mp hfeed)
  · rintro rfl
    exact absurd h (Bool.eq_false_iff.mp hreturn)

theorem isBreak_of_isGraphic {c : Char} (h : isGraphic c = true) : isBreak c = false :=
  isBreak_of_test rfl rfl h

theorem unbroken_of_graphic {s : String} (h : s.toList.all isGraphic = true) : Unbroken s :=
  fun c hc => isBreak_of_isGraphic (List.all_eq_true.mp h c hc)

@[simp] theorem unbroken_append (first second : String) :
    Unbroken (first ++ second) ↔ Unbroken first ∧ Unbroken second := by
  simp only [Unbroken, String.toList_append, List.mem_append, or_imp, forall_and]

theorem unbroken_intercalate {separator : String} {items : List String} (hs : Unbroken separator)
    (h : ∀ item ∈ items, Unbroken item) : Unbroken (separator.intercalate items) := by
  induction items with
  | nil => exact nofun
  | cons first rest ih =>
    rw [List.forall_mem_cons] at h
    cases rest with
    | nil =>
      rw [String.intercalate_singleton]
      exact h.1
    | cons second rest =>
      rw [String.intercalate_cons_cons, unbroken_append, unbroken_append]
      exact ⟨⟨h.1, hs⟩, ih h.2⟩

theorem unbroken_int (i : Int) : Unbroken (toString i) := by
  have hgraphic := Json.all_isGraphic_chars (.int i) rfl
  rw [Json.chars] at hgraphic
  exact unbroken_of_graphic hgraphic

theorem unbroken_identifier [Platform] (serial : Nat) : Unbroken (Platform.identifier serial) := by
  intro c hc
  obtain hhex | rfl := Platform.identifier_chars serial c hc
  · exact isBreak_of_test rfl rfl hhex
  · rfl

/-- In quotes, a line break is an escape. -/
theorem unbroken_quotedChar {quote : Char} (hquote : isBreak quote = false) (c : Char) :
    ∀ d ∈ quotedChar quote c, isBreak d = false := by
  have hpadded (letter : Char) (hletter : isBreak letter = false) (width n : Nat) :
      ∀ d ∈ '\\' :: letter :: hexPadded width n, isBreak d = false := by
    rw [List.forall_mem_cons, List.forall_mem_cons]
    exact ⟨rfl, hletter, fun d hd =>
      isBreak_of_isGraphic (List.all_eq_true.mp (all_isGraphic_hexPadded width n) d hd)⟩
  rw [quotedChar]
  split
  next h =>
    obtain rfl | rfl := h
    · simpa using ⟨rfl, hquote⟩
    · simp [isBreak]
  split
  · simp [isBreak]
  split
  · simp [isBreak]
  split
  · simp [isBreak]
  next hnewline hreturn _ =>
    split
    · simp [isBreak, hnewline, hreturn]
    split
    · exact hpadded 'x' rfl 2 _
    split
    · exact hpadded 'u' rfl 4 _
    · exact hpadded 'U' rfl 8 _

theorem unbroken_quotedText (s : String) : Unbroken (quotedText s) := by
  have hquote : isBreak (quoteFor s.toList) = false := by
    rw [quoteFor]
    split <;> rfl
  rw [Unbroken, quotedText, String.toList_ofList, List.forall_mem_cons, List.forall_mem_append,
    List.forall_mem_singleton]
  refine ⟨hquote, fun d hd => ?_, hquote⟩
  obtain ⟨c, -, hc⟩ := List.mem_flatMap.mp hd
  exact unbroken_quotedChar hquote c d hc

/-! ## Paths of URLs -/

namespace Url

/-- What follows an authority is a part of the URL without what is dropped. -/
theorem isDropped_of_mem_remainder {text : List Char} {c : Char} (h : c ∈ remainder text) :
    isDropped c = false := by
  have hclean : c ∈ clean text :=
    ((takeAuthority_suffix _).trans (takeScheme_suffix (clean text))).subset h
  simpa using List.of_mem_filter hclean

end Url

namespace InboundRequest

/-- A request is led to its explicit path, or to one that was read off a URL. -/
theorem resolvePath_cases {request : InboundRequest} {path : String}
    (h : request.resolvePath = .ok path) :
    request.path = some path ∨
      (request.path = none ∨ request.path = some "") ∧
        path = pathText (Url.pathOf (Url.remainder request.absoluteUrl)) := by
  cases hpath : request.path with
  | none => exact .inr ⟨.inl rfl, ((resolvePath_eq_ok_iff (.inl hpath) path).mp h).2⟩
  | some explicit =>
    by_cases hempty : explicit = ""
    · subst hempty
      exact .inr ⟨.inr rfl, ((resolvePath_eq_ok_iff (.inr hpath) path).mp h).2⟩
    · simp only [resolvePath, hpath, hempty, ↓reduceIte, Except.ok.injEq] at h
      exact .inl (congrArg some h)

theorem unbroken_pathText (url : List Char) :
    Unbroken (pathText (Url.pathOf (Url.remainder url))) := by
  rw [pathText]
  split
  · decide
  · rw [Unbroken, String.toList_ofList]
    intro c hc
    have hkept := Url.isDropped_of_mem_remainder ((List.takeWhile_sublist _).mem hc)
    simp only [Url.isDropped, Bool.or_eq_false_iff] at hkept
    rw [isBreak, hkept.1.2, hkept.2, Bool.or_self]

/-- Only an explicit path has line breaks. -/
theorem unbroken_path_iff {request : InboundRequest} {path : String}
    (h : request.resolvePath = .ok path) :
    Unbroken path ↔ ∀ explicit, request.path = some explicit → Unbroken explicit := by
  obtain hpath | ⟨hpath, rfl⟩ := resolvePath_cases h
  · simp [hpath]
  · refine iff_of_true (unbroken_pathText _) ?_
    obtain hpath | hpath := hpath
    · simp [hpath]
    · rw [hpath]
      rintro _ ⟨⟩
      decide

end InboundRequest

/-! ## Lines -/

namespace TraceSink

theorem unbroken_layerSummary {entries : List LayerEntry}
    (h : ∀ e ∈ entries, Unbroken e.layer ∧ Unbroken e.status) : Unbroken (layerSummary entries) := by
  refine unbroken_intercalate (by decide) fun item hitem => ?_
  obtain ⟨e, he, rfl⟩ := List.mem_map.mp hitem
  have hmark : Unbroken ":" := by decide
  simp only [unbroken_append]
  exact ⟨⟨(h e he).1, hmark⟩, (h e he).2⟩

/-- The parts of a summary that stand in it as they are decide whether it is one line. -/
theorem unbroken_summary_iff (t : RequestTrace) (status : Int) {entries : List LayerEntry}
    (hentries : ∀ e ∈ entries, Unbroken e.layer ∧ Unbroken e.status) :
    Unbroken (summary t (toString status) entries) ↔
      Unbroken t.traceId ∧ Unbroken t.method ∧ Unbroken t.path := by
  have hline :
      Unbroken s!"[{t.traceId}] {t.method} {t.path} -> {toString status} ({layerSummary entries})" ↔
        Unbroken t.traceId ∧ Unbroken t.method ∧ Unbroken t.path := by
    have hmarks : ∀ mark ∈ ["[", "] ", " ", " -> ", " (", ")"], Unbroken mark := by decide
    have hstatus := unbroken_int status
    simp only [List.forall_mem_cons] at hmarks
    simp only [toString] at hstatus ⊢
    simp [hmarks, hstatus, unbroken_layerSummary hentries, and_assoc]
  rw [summary]
  split
  · exact hline
  split
  · exact hline
  · have hmark : Unbroken " error=" := by decide
    rw [unbroken_append, unbroken_append]
    exact (and_iff_left (unbroken_quotedText _)).trans ((and_iff_left hmark).trans hline)

end TraceSink

section

variable [Platform]

namespace Executor

theorem logger_of_mem_run {registry : AgentRegistry} {name : String} {body : Json} {s : Sources}
    {log : LogRecord} (h : log ∈ (run registry name body s).logs) : log.logger = logger := by
  have hends := run_ends registry name body s
  generalize run registry name body s = run at h hends
  cases hends with
  | unregistered | failed | unmeasured | unwritten => cases h
  | backwards | answered =>
    obtain rfl := List.mem_singleton.mp h
    rfl

end Executor

namespace Router

variable {r : Router} {request : InboundRequest} {path traceId : String} {s : Sources}
  {d : Dispatched}

/-- The records of a dispatch are not the sink's. -/
theorem Exit.logger_ne (h : Exit r request path traceId s d) :
    ∀ log ∈ d.logs, log.logger ≠ TraceSink.logger := by
  have hrouter : logger ≠ TraceSink.logger := by decide
  have hexecutor : Executor.logger ≠ TraceSink.logger := by decide
  have hrun (name : String) (log : LogRecord)
      (hlog : log ∈ (Executor.run r.registry name request.body s).logs) :
      log.logger ≠ TraceSink.logger := by
    rw [Executor.logger_of_mem_run hlog]
    exact hexecutor
  cases h with
  | health | contracts | unknown | wrongMethod => nofun
  | rejected => exact List.forall_mem_singleton.mpr hrouter
  | failed =>
    exact List.forall_mem_append.mpr ⟨hrun _, List.forall_mem_singleton.mpr hrouter⟩
  | answered => exact hrun _

/-- The labels of the layers are those of the routing and of the agents with a path. -/
theorem Exit.unbroken_layers (h : Exit r request path traceId s d) :
    ∀ e ∈ d.reply.layers, Unbroken e.layer ∧ Unbroken e.status := by
  have hrouted : Unbroken routed.layer ∧ Unbroken routed.status := by decide
  have hfailed : Unbroken "failed" := by decide
  have hcompleted : Unbroken "completed" := by decide
  have hnames : ∀ name ∈ Contract.agentNames, Unbroken (Contract.layerName name) := by
    decide
  cases h with
  | health | contracts | wrongMethod => exact List.forall_mem_singleton.mpr hrouted
  | unknown => exact List.forall_mem_singleton.mpr ⟨hrouted.1, hfailed⟩
  | rejected hp | failed hp =>
    have hlabel := hnames _ (Route.mem_agentNames_of_ofPath hp)
    exact List.forall_mem_cons.mpr ⟨hrouted, List.forall_mem_singleton.mpr ⟨hlabel, hfailed⟩⟩
  | answered hp _ _ hrun =>
    have hlabel := hnames _ (Route.mem_agentNames_of_ofPath hp)
    rw [← (Executor.result_of_run hrun).1] at hlabel
    exact List.forall_mem_cons.mpr ⟨hrouted, List.forall_mem_singleton.mpr ⟨hlabel, hcompleted⟩⟩

theorem Exit.hasText_status (h : Exit r request path traceId s d) :
    hasText d.reply.status = true := by
  have htext : ∀ status ∈ [200, 400, 404, 405, 500], hasText status = true := by decide
  exact htext _ h.reportsError.status_mem

/-- Only a correlation id breaks the name of a trace. -/
theorem unbroken_traceId_iff (r : Router) (request : InboundRequest) (s : Sources) :
    Unbroken (r.metadata request s).1.traceId ↔
      ∀ id, request.correlationId? = some id → Unbroken id := by
  cases hid : request.correlationId? with
  | none =>
    rw [metadata_fresh r s hid]
    exact iff_of_true (unbroken_identifier _) nofun
  | some id =>
    rw [(metadata_given r s hid).2]
    simp

/-- The router with tracing and a sink that writes a line for each trace. -/
def lining (r : Router) : Router := { r with sink := .logging false, traceEnabled := true }

end Router

/-- The records of the sink among those that were logged. -/
def sinkRecords (handled : Handled) : List LogRecord :=
  handled.logs.filter (·.logger = TraceSink.logger)

/-- The parts of a request that stand in its summary as they are have no line breaks. -/
structure Tame (request : InboundRequest) : Prop where
  correlationId : ∀ id, request.correlationId? = some id → Unbroken id
  method : Unbroken request.method
  path : ∀ path, request.path = some path → Unbroken path

/-- The records of the sink about one handled request: one summary for its response, on a line of
its own when the request is tame and only then, and none without a response. -/
structure Lined (request : InboundRequest) (handled : Handled) : Prop where
  options : request.method = "OPTIONS" → sinkRecords handled = []
  failed : ∀ fault, handled.outcome = .error fault → sinkRecords handled = []
  answered : request.method ≠ "OPTIONS" → ∀ response, handled.outcome = .ok response →
    ∃ summary, sinkRecords handled = [summary] ∧
      TraceSink.Graded response.status summary.level ∧ (Unbroken summary.message ↔ Tame request)

namespace Router

/-- The sink logs the summary of the trace, and nothing else that is logged is its own. -/
theorem sinkRecords_resolved (r : Router) {request : InboundRequest} (s : Sources) {path : String}
    (hm : request.method ≠ "OPTIONS") (hp : request.resolvePath = .ok path) :
    let m := (r.lining.metadata request s).1
    let reply := (r.lining.dispatched request path s).reply
    sinkRecords (r.lining.handle request s) =
      [TraceSink.record (TraceSink.summaryLevel reply.status)
        (TraceSink.summary (trace m request path (envelope m reply) reply)
          (toString reply.status) reply.layers)] := by
  intro m reply
  have hwell : (trace m request path (envelope m reply) reply).WellFormed reply.status
      reply.layers := ⟨rfl, rfl⟩
  have hlines := hwell.lineRecords (r.lining.dispatched_exit request path s).hasText_status false
  have hforeign : (r.lining.dispatched request path s).logs.filter
      (·.logger = TraceSink.logger) = [] := by
    rw [List.filter_eq_nil_iff]
    intro log hlog
    simpa using (r.lining.dispatched_exit request path s).logger_ne log hlog
  have hemit : r.lining.emit (trace m request path (envelope m reply) reply) =
      ([], TraceSink.withWarning "trace" (TraceSink.lineRecords false
        (trace m request path (envelope m reply) reply)) ++ []) := rfl
  rw [sinkRecords, handle_resolved _ s hm hp]
  simp only [List.filter_append, hforeign, List.nil_append]
  rw [hemit, hlines]
  rfl

theorem handle_lined (r : Router) (request : InboundRequest) (s : Sources) :
    Lined request (r.lining.handle request s) := by
  by_cases hm : request.method = "OPTIONS"
  · rw [handle_options _ s hm]
    exact ⟨fun _ => rfl, fun _ _ => rfl, fun h => absurd hm h⟩
  cases hp : request.resolvePath with
  | error fault =>
    rw [handle_unresolved _ s hm hp]
    exact ⟨fun _ => rfl, fun _ _ => rfl, fun _ _ => nofun⟩
  | ok path =>
    have hrecords := r.sinkRecords_resolved s hm hp
    have hlayers := (r.lining.dispatched_exit request path s).unbroken_layers
    refine ⟨fun h => absurd h hm, fun _ hfault => ?_, fun _ response hresponse => ?_⟩
    · rw [handle_resolved _ s hm hp] at hfault
      cases hfault
    · rw [handle_resolved _ s hm hp] at hresponse
      cases hresponse
      refine ⟨_, hrecords, TraceSink.summaryLevel_graded _, ?_⟩
      refine (TraceSink.unbroken_summary_iff _ _ hlayers).trans ?_
      refine (and_congr (r.lining.unbroken_traceId_iff request s)
        (and_congr_right fun _ => InboundRequest.unbroken_path_iff hp)).trans ?_
      exact ⟨fun h => ⟨h.1, h.2.1, h.2.2⟩, fun h => ⟨h.correlationId, h.method, h.path⟩⟩

/-- Along every run, the sink sums up each request other than OPTIONS that got a response in one
record, which is one line exactly when neither the correlation id nor the method nor an explicit
path of the request has a line break. -/
theorem handleAll_lined (r : Router) (requests : List InboundRequest) (s : Sources) :
    List.Forall₂ Lined requests (r.lining.handleAll requests s) :=
  handleAll_forall₂ r.lining (handle_lined r) requests s

end Router

end

namespace Router

open scoped Platform in
/-- A correlation id with a line feed breaks the summary. -/
theorem handle_summary_broken :
    ¬∀ (r : Router) (request : InboundRequest) (s : Sources) (response : OutboundResponse),
      r.sink = .logging false → r.traceEnabled = true → request.method ≠ "OPTIONS" →
      (r.handle request s).outcome = .ok response →
      ∃ summary, sinkRecords (r.handle request s) = [summary] ∧ Unbroken summary.message := by
  intro h
  let r : Router := ⟨.default none "", .logging false, "registry", false, true⟩
  let request : InboundRequest :=
    .make "GET" (some "/health") "/" [("X-Correlation-Id", "a\nb")] .null
  let s : Sources := ⟨0, ⟨2026, 1, 1, 0, 0, 0, 0⟩, []⟩
  have hmethod : request.method ≠ "OPTIONS" := by decide
  obtain ⟨summary, hsummary, hunbroken⟩ := h r request s _ rfl rfl hmethod rfl
  obtain ⟨logged, hlogged, -, htame⟩ := (handle_lined r request s).answered hmethod _ rfl
  obtain rfl : summary = logged := by
    have hsame : [summary] = [logged] := hsummary.symm.trans hlogged
    exact List.head_eq_of_cons_eq hsame
  have hid : request.correlationId? = some "a\nb" := by decide
  exact absurd ((htame.mp hunbroken).correlationId _ hid) (by decide)

end Router

end RegistryGateway
