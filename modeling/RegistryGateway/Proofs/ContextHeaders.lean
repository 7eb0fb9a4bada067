import RegistryGateway.Platform.Standard
import RegistryGateway.Proofs.Progress
import RegistryGateway.Proofs.Refusal

/-! The headers of the execution context.  A request carries the two headers of the context in
force, once each, in place of whatever is configured under their names in any spelling; where no
context is in force it carries what is configured.  The context has no other part in a request. -/

namespace RegistryGateway.Client

def contextNames : List String := ["X-Execution-Id", "X-Parent-Span-Id"]

/-- Whether a header is one of those of an execution context, whatever the case of its name. -/
def isContextual (name : String) : Bool := contextNames.any (Headers.sameName name)

/-- The request without the headers of an execution context. -/
def Request.untagged (r : Request) : Request :=
  { r with headers := r.headers.filter fun h => !isContextual h.1 }

/-- The context that is in force after some steps: the one set last, else the first one. -/
def inForce (first : Option ExecutionContext) (steps : List Session.Step) :
    Option ExecutionContext :=
  (steps.filterMap fun
    | .setContext context => some context
    | _ => none).getLast?.getD first

/-- The identifiers are in ASCII. -/
def ExecutionContext.Writable (c : ExecutionContext) : Prop :=
  ∀ ch ∈ c.executionId.toList ++ c.parentSpanId.toList, ch.toNat < 0x80

namespace NotAscii

theorem first?_of_ascii {text : String} (h : ∀ c ∈ text.toList, c.toNat < 0x80) :
    first? text = none := by
  have hinside : ∀ c ∈ text.toList, (!isOutside c) = true := by
    intro c hc
    simpa [isOutside] using h c hc
  have hbefore : (text.toList ++ []).takeWhile (!isOutside ·) =
      text.toList ++ [].takeWhile (!isOutside ·) := List.takeWhile_append_of_pos hinside
  simp only [List.append_nil, List.takeWhile_nil] at hbefore
  simp [first?, hbefore]

end NotAscii

namespace ExecutionContext

theorem contains_headers (c : ExecutionContext) (name : String) :
    c.headers.contains name = isContextual name := by
  simp [Headers.contains, headers, isContextual, contextNames, Headers.sameName, eq_comm]

theorem values_headers (c : ExecutionContext) :
    c.headers.values "X-Execution-Id" = [c.executionId] ∧
      c.headers.values "X-Parent-Span-Id" = [c.parentSpanId] := by
  have hsame : Headers.sameName "X-Execution-Id" "X-Execution-Id" = true ∧
      Headers.sameName "X-Parent-Span-Id" "X-Parent-Span-Id" = true ∧
      Headers.sameName "X-Execution-Id" "X-Parent-Span-Id" = false ∧
      Headers.sameName "X-Parent-Span-Id" "X-Execution-Id" = false := by decide
  obtain ⟨hfirst, hsecond, hother, hother'⟩ := hsame
  simp [Headers.values, headers, hfirst, hsecond, hother, hother']

theorem asciiFault?_headers {c : ExecutionContext} (h : c.Writable) :
    Headers.asciiFault? c.headers = none := by
  have hfirst : NotAscii.first? c.executionId = none :=
    NotAscii.first?_of_ascii fun ch hch => h ch (List.mem_append_left _ hch)
  have hsecond : NotAscii.first? c.parentSpanId = none :=
    NotAscii.first?_of_ascii fun ch hch => h ch (List.mem_append_right _ hch)
  have hnames : NotAscii.first? "X-Execution-Id" = none ∧
      NotAscii.first? "X-Parent-Span-Id" = none := by decide
  simp [Headers.asciiFault?, headers, hnames.1, hnames.2, hfirst, hsecond]

end ExecutionContext

theorem sameName_of_mem_contextNames {name : String} (h : name ∈ contextNames) :
    ∀ key ∈ ["Accept", "Authorization", "Content-Type", "Host"],
      Headers.sameName key name = false := by
  have hall : ∀ name ∈ contextNames, ∀ key ∈ ["Accept", "Authorization", "Content-Type", "Host"],
      Headers.sameName key name = false := by decide
  exact hall name h

theorem isContextual_of_mem {name : String} (h : name ∈ contextNames) :
    isContextual name = true := by
  have hall : ∀ name ∈ contextNames, isContextual name = true := by decide
  exact hall name h

theorem Config.filter_authorization (config : Config) {name : String}
    (h : Headers.sameName "Authorization" name = false) :
    (config.authorization.filter fun e => Headers.sameName e.1 name) = [] := by
  rw [authorization]
  split
  · split <;> simp [h]
  · rfl

theorem Config.values_defaults (config : Config) {name : String} (h : name ∈ contextNames) :
    config.defaults.values name = Headers.values (Assoc.ofPairs config.headers) name := by
  have haccept := sameName_of_mem_contextNames h "Accept" (by simp)
  have hauthorization := sameName_of_mem_contextNames h "Authorization" (by simp)
  have hdefaults : (("Accept", "application/json") :: config.authorization).filter
      (fun e => Headers.sameName e.1 name) = [] := by
    rw [List.filter_cons_of_neg (by simp [haccept]), config.filter_authorization hauthorization]
  have hfilter := Assoc.filter_update (Headers.sameName · name)
    (("Accept", "application/json") :: config.authorization) config.headers
  have hfilter' := Assoc.filter_update (Headers.sameName · name) [] config.headers
  rw [hdefaults] at hfilter
  exact congrArg (List.map (·.2)) (hfilter.trans hfilter'.symm)

namespace Session

open Url (Target)

/-! ## Requests -/

/-- Credentials change no other header. -/
theorem values_withCredentials_of_ne (t : Target) (hs : Headers) {name : String}
    (h : Headers.sameName "Authorization" name = false) :
    (withCredentials t hs).values name = hs.values name := by
  unfold withCredentials
  split
  split
  · rfl
  · exact Headers.values_set_of_ne h hs _

/-- Besides the default headers a request has only a type, a host and its credentials. -/
theorem exists_ownHeaders (s : Session) (t : Target) (contentType : Option String) :
    ∃ hs, s.ownHeaders t contentType = withCredentials t hs ∧
      ∀ name, Headers.sameName "Content-Type" name = false →
        Headers.sameName "Host" name = false → hs.values name = s.config.defaults.values name := by
  refine ⟨_, rfl, fun name htype hhost => ?_⟩
  have hwithHost (hs : Headers) : (withHost t hs).values name = hs.values name := by
    unfold withHost
    split
    · rfl
    · rw [Headers.values_cons, if_neg (by simp [hhost])]
  rw [hwithHost]
  cases contentType with
  | none => rfl
  | some type => exact Headers.values_setDefault_of_ne htype _ _

theorem values_ownHeaders (s : Session) (t : Target) (contentType : Option String) {name : String}
    (h : name ∈ contextNames) :
    (s.ownHeaders t contentType).values name =
      Headers.values (Assoc.ofPairs s.config.headers) name := by
  have hauthorization := sameName_of_mem_contextNames h "Authorization" (by simp)
  have htype := sameName_of_mem_contextNames h "Content-Type" (by simp)
  have hhost := sameName_of_mem_contextNames h "Host" (by simp)
  obtain ⟨hs, hown, hvalues⟩ := s.exists_ownHeaders t contentType
  rw [hown, values_withCredentials_of_ne t hs hauthorization, hvalues name htype hhost,
    s.config.values_defaults h]

theorem values_of_context {s : Session} {c : ExecutionContext} (h : s.context = some c)
    (own : Headers) {name : String} (hname : name ∈ contextNames) :
    (own.update s.contextHeaders).values name = c.headers.values name := by
  rw [contextHeaders, h, Headers.values_update, c.contains_headers, isContextual_of_mem hname,
    if_pos rfl]

theorem values_of_no_context {s : Session} (h : s.context = none) (own : Headers) (name : String) :
    (own.update s.contextHeaders).values name = own.values name := by
  rw [contextHeaders, h, Headers.values_update]
  rfl

/-- The context changes no header but its own. -/
theorem untagged_update (s : Session) (own : Headers) :
    (own.update s.contextHeaders).filter (fun h => !isContextual h.1) =
      own.filter fun h => !isContextual h.1 := by
  cases hcontext : s.context with
  | none => simp [contextHeaders, hcontext, Headers.update, Headers.contains]
  | some c =>
    have hcontextual : c.headers.filter (fun h => !isContextual h.1) = [] := by
      have hfirst : isContextual "X-Execution-Id" = true := by decide
      have hsecond : isContextual "X-Parent-Span-Id" = true := by decide
      simp [ExecutionContext.headers, hfirst, hsecond]
    simp [contextHeaders, hcontext, Headers.update, c.contains_headers, hcontextual,
      List.filter_filter]

/-- Whatever the context, the request is the same but for the headers of the context, and a context
in ASCII keeps no request from being sent. -/
theorem request_of_context {s : Session} {op : Operation} {request : Request}
    (h : s.request op = .ok request) {context : Option ExecutionContext}
    (hcontext : ∀ c, context = some c → c.Writable) :
    ∃ other, ({ s with context := context } : Session).request op = .ok other ∧
      other.untagged = request.untagged := by
  obtain ⟨t, contentType, body, ht, hcontent, hclosed, -, rfl⟩ :=
    (request_eq_ok_iff s op request).mp h
  have hascii : Headers.asciiFault? ({ s with context := context } : Session).contextHeaders =
      none := by
    cases context with
    | none => rfl
    | some c => exact ExecutionContext.asciiFault?_headers (hcontext c rfl)
  refine ⟨_, (request_eq_ok_iff _ _ _).mpr ⟨t, contentType, body, ht, hcontent, hclosed, hascii,
    rfl⟩, ?_⟩
  simp only [Request.untagged, untagged_update]
  rfl

/-! ## Runs -/

theorem inForce_cons (first : Option ExecutionContext) (step : Step) (rest : List Step) :
    inForce first (step :: rest) = inForce (inForce first [step]) rest := by
  cases step <;> simp [inForce, List.getLast?_cons]

section

variable [Platform]

theorem step_context (s : Session) (step : Step) :
    (s.step step).session.context = inForce s.context [step] := by
  cases step with
  | call op exchange =>
    obtain ⟨last, hlast⟩ := perform_session s op exchange
    rw [Session.step, hlast]
    rfl
  | setContext context => rfl
  | showContext => rfl
  | close => rfl

theorem after_context (s : Session) (steps : List Step) :
    (s.after steps).context = inForce s.context steps := by
  induction steps generalizing s with
  | nil => rfl
  | cons step rest ih =>
    have hafter : s.after (step :: rest) = (s.step step).session.after rest := rfl
    rw [hafter, ih, step_context, ← inForce_cons]

/-- What the execution context has to do with a request that is sent after some steps. -/
structure Tagged (config : Config) (s : Session) (steps : List Step) (op : Operation)
    (request : Request) : Prop where
  /-- The context in force is in the request, once. -/
  carried : ∀ c, inForce config.context steps = some c →
    request.headers.values "X-Execution-Id" = [c.executionId] ∧
      request.headers.values "X-Parent-Span-Id" = [c.parentSpanId]
  /-- Where there is none, the request has what is configured, each name with its last value. -/
  configured : inForce config.context steps = none → ∀ name ∈ contextNames,
    request.headers.values name = Headers.values (Assoc.ofPairs config.headers) name
  /-- Under any other context the same request would be sent, but for the headers of the context. -/
  independent : ∀ context : Option ExecutionContext, (∀ c, context = some c → c.Writable) →
    ∃ other, ({ s.after steps with context := context } : Session).request op = .ok other ∧
      other.untagged = request.untagged

/-- Every request that a session sends is tagged with the context in force. -/
theorem sent_tagged {config : Config} {boundary : List Char} {s : Session}
    (hstart : start config boundary = .ok s) (steps : List Step) {op : Operation}
    {exchange : Exchange} {request : Request}
    (hsent : request ∈ ((s.after steps).perform op exchange).requests) :
    Tagged config s steps op request := by
  obtain ⟨base, -, -, hs⟩ := (start_eq_ok_iff config boundary s).mp hstart
  have hrequest := (mem_requests_iff _ op exchange request).mp hsent
  have hcontext : (s.after steps).context = inForce config.context steps := by
    rw [after_context, hs]
  have hconfig : (s.after steps).config = config := by rw [after_config, hs]
  obtain ⟨t, contentType, body, -, -, -, -, hparts⟩ := (request_eq_ok_iff _ op request).mp hrequest
  refine ⟨fun c hc => ?_, fun hnone name hname => ?_,
    fun context h => request_of_context hrequest h⟩
  · rw [hc] at hcontext
    rw [hparts, values_of_context hcontext _ (by simp [contextNames]),
      values_of_context hcontext _ (by simp [contextNames])]
    exact c.values_headers
  · rw [hnone] at hcontext
    rw [hparts, values_of_no_context hcontext, values_ownHeaders _ _ _ hname, hconfig]

end

/-- A configuration that sets a header of a context in a spelling of its own. -/
def spelledConfig : Config :=
  { configAt "http://registry.test" with headers := [("x-EXECUTION-id", "old"), ("X-Team", "a")] }

open scoped Platform in
/-- A context overrides what is configured, and nothing else does. -/
theorem sent_tagged_spelled :
    ∃ s first second, start spelledConfig [] = .ok s ∧ s.request .health = .ok first ∧
      (s.after [.setContext (some ⟨"e-1", "s-1"⟩)]).request .health = .ok second ∧
      first.headers.values "X-Execution-Id" = ["old"] ∧
      second.headers.values "X-Execution-Id" = ["e-1"] ∧
      second.headers.values "X-Parent-Span-Id" = ["s-1"] := by
  have hsends : sends spelledConfig .health = true := by decide +kernel
  obtain ⟨s, first, hs, hfirst, -⟩ := (sends_iff _ _).mp hsends
  have htagged := sent_tagged hs [] ((mem_requests_iff s .health (.failure "" "") _).mpr hfirst)
  have hwritable : ∀ c, some (ExecutionContext.mk "e-1" "s-1") = some c → c.Writable := by
    rintro c ⟨⟩
    simp [ExecutionContext.Writable]
  obtain ⟨second, hsecond, -⟩ := htagged.independent (some ⟨"e-1", "s-1"⟩) hwritable
  have htagged' := sent_tagged hs [.setContext (some ⟨"e-1", "s-1"⟩)]
    ((mem_requests_iff _ .health (.failure "" "") _).mpr hsecond)
  obtain ⟨hexecution, hparent⟩ := htagged'.carried ⟨"e-1", "s-1"⟩ rfl
  have hold := htagged.configured rfl "X-Execution-Id" (by decide)
  refine ⟨s, first, second, hs, hfirst, hsecond, ?_, hexecution, hparent⟩
  rw [hold]
  decide

end Session

end RegistryGateway.Client
