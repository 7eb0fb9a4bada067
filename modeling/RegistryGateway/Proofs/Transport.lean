import RegistryGateway.Proofs.Legibility
import RegistryGateway.Proofs.Resolution

/-! The answers of the service over HTTP.  A request gets to the router when the service takes its
method and its path and can make a request for the router of it: the query is text, the URL has a
sound authority, the body is not nested too deep, and every header has a value under its name in
lower case.  The answer of the router is an envelope.  Any other request is answered by the
framework, without the headers, the metadata and the layers. -/

namespace RegistryGateway

section

variable [Platform]

/-! ## Replies without infinite doubles -/

namespace Agent

theorem allFinite_of_written {v w : Json} (h : v.written? = .ok w) : w.allFinite = true := by
  obtain ⟨-, rfl⟩ := written?_eq_ok_iff.mp h
  exact Json.allFinite_finite v

theorem index_finite {assets mode data : Json} (h : index.report assets mode = .ok data) :
    data.allFinite = true := by
  obtain ⟨written, hmode, h⟩ := bind_eq_ok h
  cases h
  simp [Json.allFinite, Json.allFiniteMembers, Json.allFiniteItems, allFinite_of_written hmode]

theorem reputation_finite {agent data : Json} {now : Timestamp}
    (h : reputation.report agent now = .ok data) : data.allFinite = true := by
  obtain ⟨written, hagent, h⟩ := bind_eq_ok h
  cases h
  have hscores : Json.allFiniteMembers (Contract.reputationCategories.map (·, .int 0)) = true := by
    decide
  simp [Json.allFinite, Json.allFiniteMembers, hscores, allFinite_of_written hagent]

theorem bootstrap_finite {baseUrl id : String} {agent template overrides data : Json}
    (h : bootstrap.report baseUrl id agent template overrides = .ok data) :
    data.allFinite = true := by
  obtain ⟨_, hagent, h⟩ := bind_eq_ok h
  obtain ⟨_, htemplate, h⟩ := bind_eq_ok h
  obtain ⟨_, hconfig, h⟩ := bind_eq_ok h
  cases h
  simp [Json.allFinite, Json.allFiniteMembers, allFinite_of_written hagent,
    allFinite_of_written htemplate, allFinite_of_written hconfig]

end Agent

/-- What the default registry gives is finite. -/
theorem AgentRegistry.default_gives_finite {baseUrl : Option String} {fallback name : String}
    {body data : Json} {s : Sources}
    (h : (AgentRegistry.default baseUrl fallback).Gives name body s data) :
    data.allFinite = true := by
  obtain ⟨agent, output, hget, houtput, hdata⟩ := gives_iff.mp h
  have hmem := List.mem_of_find?_eq_some hget
  simp only [AgentRegistry.default, List.mem_cons, List.not_mem_nil, or_false] at hmem
  have hbootstrap {baseUrl : String}
      (houtput : (Agent.bootstrap.answer baseUrl body s).1 = .ok output) :
      data.allFinite = true := by
    simp only [Agent.bootstrap.answer] at houtput
    split at houtput
    · cases houtput
    · obtain ⟨_, -, houtput⟩ := Agent.bind_eq_ok houtput
      obtain ⟨_, -, houtput⟩ := Agent.bind_eq_ok houtput
      cases houtput
      exact Agent.bootstrap_finite hdata
  obtain rfl | rfl | rfl := hmem
  · obtain ⟨_, -, houtput⟩ := Agent.bind_eq_ok houtput
    obtain ⟨_, -, houtput⟩ := Agent.bind_eq_ok houtput
    cases houtput
    exact Agent.index_finite hdata
  · obtain ⟨_, -, houtput⟩ := Agent.bind_eq_ok houtput
    cases houtput
    exact Agent.reputation_finite hdata
  · cases baseUrl <;> exact hbootstrap houtput

namespace Router

/-- A body of the default registry is finite. -/
theorem Exit.finite {r : Router} {baseUrl : Option String} {fallback : String}
    (hr : r.registry = .default baseUrl fallback) {request : InboundRequest}
    {path traceId : String} {s : Sources} {d : Dispatched} (h : Exit r request path traceId s d)
    (m : ExecutionMetadata) :
    (Json.obj (d.reply.payload ++ closing m d.reply)).allFinite = true := by
  rw [← Json.all_finiteDouble]
  refine h.all Json.finiteDouble_mild m fun data hdata => ?_
  rw [Json.all_finiteDouble]
  cases h with
  | answered _ _ _ hrun =>
    obtain rfl := Option.some.inj hdata
    have hgives := Executor.gives_of_run hrun
    rw [hr] at hgives
    exact AgentRegistry.default_gives_finite hgives
  | health | contracts | unknown | wrongMethod | rejected | failed => cases hdata

theorem handle_finite {r : Router} {baseUrl : Option String} {fallback : String}
    (hr : r.registry = .default baseUrl fallback) (request : InboundRequest) (s : Sources)
    {response : OutboundResponse} (h : (r.handle request s).outcome = .ok response)
    {members : List (String × Json)} (hmembers : response.body = some members) :
    (Json.obj members).allFinite = true := by
  by_cases hm : request.method = "OPTIONS"
  · rw [handle_options r s hm] at h
    cases h
    cases hmembers
  cases hp : request.resolvePath with
  | error fault =>
    rw [handle_unresolved r s hm hp] at h
    cases h
  | ok path =>
    have hexit := r.dispatched_exit request path s
    rw [handle_resolved r s hm hp] at h
    cases h
    rw [hexit.body] at hmembers
    cases hmembers
    exact hexit.finite hr _

end Router

end

namespace Http

/-! ## Envelopes -/

theorem mem_sortPairs (pair : String × String) (pairs : List (String × String)) :
    pair ∈ sortPairs pairs ↔ pair ∈ pairs := List.mem_mergeSort

/-- The headers that let every origin read a response, as they are sent. -/
def corsHeaders : List (String × String) :=
  [("access-control-allow-origin", "*"), ("access-control-allow-methods", "GET, POST, OPTIONS"),
    ("access-control-allow-headers", "Content-Type, Authorization, X-Correlation-Id"),
    ("access-control-max-age", "3600")]

/-- A response that every origin may read and that, unless it is one without content, sends an
object with the metadata and the layers. -/
structure IsEnvelope (response : Response) : Prop where
  cors : ∀ header ∈ corsHeaders, header ∈ response.headers
  body : response.status ≠ 204 → ∃ members, response.body = (Json.obj members).wire ∧
    (Json.obj members).allFinite = true ∧ "execution_metadata" ∈ Assoc.keys members ∧
    "layers_executed" ∈ Assoc.keys members

/-- A response with such headers only is no envelope. -/
theorem not_isEnvelope_withLength (status : Int) (body : String) {headers : List (String × String)}
    (h : ∀ header ∈ headers, header.1 ∈ ["allow", "content-type"]) :
    ¬IsEnvelope (withLength status headers body) := by
  intro henvelope
  have hmem := henvelope.cors _ (List.mem_cons_self ..)
  rw [withLength, mem_sortPairs, List.mem_append] at hmem
  obtain hmem | hmem := hmem
  · exact absurd (h _ hmem) (by decide)
  · split at hmem
    · cases hmem
    · obtain ⟨hname, -⟩ := Prod.mk.inj (List.mem_singleton.mp hmem)
      exact absurd hname (by decide)

/-- The answers of the framework: to a path that it does not have, to a method that it does not
take, and to a request that ends in a fault. -/
def plainResponses : List Response :=
  [plainError 404 "Not Found" [],
    plainError 405 "Method Not Allowed" [("allow", ", ".intercalate methods)], internalError]

/-- What the framework answers is no envelope. -/
theorem not_isEnvelope_of_plain {response : Response} (h : response ∈ plainResponses) :
    ¬IsEnvelope response := by
  simp only [plainResponses, List.mem_cons, List.not_mem_nil, or_false] at h
  obtain rfl | rfl | rfl := h
  · exact not_isEnvelope_withLength _ _ (by simp)
  · exact not_isEnvelope_withLength _ _ (by simp)
  · exact not_isEnvelope_withLength _ _ (by simp)

/-- An enveloped response is sent as an envelope. -/
theorem isEnvelope_ofOutbound {request : InboundRequest} {response : OutboundResponse}
    (h : Enveloped request response)
    (hfinite : ∀ members, response.body = some members → (Json.obj members).allFinite = true) :
    IsEnvelope (ofOutbound response) := by
  have hsent {name sent value : String} (hget : response.headers.get? name = some value)
      (hname : lower name = sent) : (sent, value) ∈ (ofOutbound response).headers := by
    rw [ofOutbound, withLength, mem_sortPairs, ← hname]
    exact List.mem_append_left _ (List.mem_map.mpr ⟨_, Assoc.mem_of_get? hget, rfl⟩)
  constructor
  · have hcors := h.cors
    simp only [corsHeaders, List.forall_mem_cons]
    exact ⟨hsent hcors.origin (by decide), hsent hcors.methods (by decide),
      hsent hcors.names (by decide), hsent hcors.maxAge (by decide), nofun⟩
  · intro hstatus
    cases hbody : response.body with
    | none => exact absurd (h.status_iff.mp hbody) hstatus
    | some members =>
      obtain ⟨path, payload, layers, metadata, -, hmembers, -⟩ := (h.body members hbody).closed
      refine ⟨members, ?_, hfinite members hbody, ?_, ?_⟩
      · rw [ofOutbound, withLength, OutboundResponse.wire, hbody]
      · simp [hmembers, Assoc.keys]
      · simp [hmembers, Assoc.keys]

/-! ## Requests that get to the router -/

theorem hasPath_iff (path : List Char) :
    hasPath path = true ↔ ∃ rest, path = '/' :: rest ∧ '\n' ∉ rest.dropLast := by
  unfold hasPath
  split
  · simp
  next hother => exact iff_of_false nofun fun ⟨rest, hrest, _⟩ => hother rest hrest

section

variable (headers : List (String × String))

theorem headerValues_append (h : String × String) (values : String → Option String) :
    Assoc.ofPairs ((headers ++ [h]).map fun (name, _) => (name, values name)) =
      (Assoc.ofPairs (headers.map fun (name, _) => (name, values name))).put h.1 (values h.1) := by
  rw [List.map_append]
  exact List.foldl_append ..

/-- A header is found by its name as it was given, with the value under its name in lower case. -/
theorem get?_headerValues (name : String) :
    (headerValues headers).get? name =
      if name ∈ Assoc.keys headers then some (Assoc.get? headers (lower name)) else none := by
  rw [headerValues]
  generalize hvalues : (fun name => Assoc.get? headers (lower name)) = values
  have hvalue (name : String) : Assoc.get? headers (lower name) = values name := by rw [← hvalues]
  simp only [hvalue]
  clear hvalues hvalue
  induction headers using List.reverseRecOn with
  | nil => rfl
  | append_singleton headers h ih =>
    have hkeys : Assoc.keys (headers ++ [h]) = Assoc.keys headers ++ [h.1] := List.map_append
    rw [headerValues_append, Assoc.get?_put, ih, hkeys]
    by_cases hname : h.1 = name
    · simp [hname]
    · simp [hname, Ne.symm hname]

theorem headerValues_keys_nodup : (headerValues headers).keys.Nodup := Assoc.keys_ofPairs_nodup _

/-- The headers have values when each has one under its name in lower case; each then has that. -/
theorem firstValues_eq_ok_iff (values : List (String × String)) :
    firstValues headers = .ok values ↔
      (∀ name ∈ Assoc.keys headers, lower name ∈ Assoc.keys headers) ∧
        values = (headerValues headers).filterMap fun (name, value) => value.map (name, ·) := by
  have hmisfits : ((headerValues headers).filterMap fun (name, value) =>
      if value.isNone then some (Misfit.mk ["headers", name] .notText) else none).isEmpty = true ↔
      ∀ name ∈ Assoc.keys headers, lower name ∈ Assoc.keys headers := by
    rw [List.isEmpty_iff, List.filterMap_eq_nil_iff]
    constructor
    · intro h name hname
      have hget := get?_headerValues headers name
      rw [if_pos hname] at hget
      have hsome := h _ (Assoc.mem_of_get? hget)
      rw [Assoc.mem_keys_iff, ← Option.ne_none_iff_exists']
      simpa using hsome
    · rintro h ⟨name, value⟩ hmem
      have hget := (Assoc.get?_eq_some_iff (headerValues_keys_nodup headers)).mpr hmem
      rw [get?_headerValues] at hget
      split at hget
      next hname =>
        cases hget
        obtain ⟨v, hv⟩ := (Assoc.mem_keys_iff _ _).mp (h name hname)
        simp [hv]
      · cases hget
  rw [← hmisfits, firstValues]
  split
  next hempty =>
    exact ⟨fun h => ⟨hempty, (Except.ok.inj h).symm⟩, fun h => congrArg Except.ok h.2.symm⟩
  next hmisfit => exact iff_of_false nofun fun h => hmisfit h.1

end

section

variable [Platform]

/-- The router's request for an HTTP request whose URL has these parts. -/
def Adapted (r : Request) (parts : Url.Parts) (request : InboundRequest) : Prop :=
  splitUrl r = .ok parts ∧ (inbound r parts).1 = .ok request

theorem splitUrl_eq_ok_iff (r : Request) (parts : Url.Parts) :
    splitUrl r = .ok parts ↔
      ∃ query, Utf8.decode r.query = .ok query ∧ Url.split (requestUrl r query) = .ok parts := by
  rw [splitUrl]
  cases Utf8.decode r.query with
  | error e => simp
  | ok query => cases hsplit : Url.split (requestUrl r query) <;> simp [hsplit]

/-- The parts of a URL can be told when its query is text and its authority is sound. -/
theorem splitUrl_isOk_iff (r : Request) :
    (∃ parts, splitUrl r = .ok parts) ↔ ∃ query, Utf8.decode r.query = .ok query ∧
      ∀ fault, ¬Url.AuthorityFault (Url.authority (requestUrl r query)) fault := by
  simp only [splitUrl_eq_ok_iff, ← Url.split_error_iff]
  constructor
  · rintro ⟨parts, query, hquery, hparts⟩
    exact ⟨query, hquery, by simp [hparts]⟩
  · rintro ⟨query, hquery, hsound⟩
    cases hparts : Url.split (requestUrl r query) with
    | error fault => exact absurd hparts (hsound fault)
    | ok parts => exact ⟨parts, query, hquery, hparts⟩

theorem readBody_isOk_iff (body : Bytes) :
    (∃ value, readBody body = .ok value) ↔ body = [] ∨ Platform.readFault? body = none := by
  rw [readBody, Json.load]
  cases body with
  | nil => simp
  | cons b rest =>
    cases Platform.readFault? (b :: rest) with
    | some e => simp
    | none => cases Json.decode (b :: rest) <;> simp

/-- What the router's request is made of. -/
theorem inbound_eq_ok_iff (r : Request) (parts : Url.Parts) (request : InboundRequest) :
    (inbound r parts).1 = .ok request ↔ ∃ body readable values,
      readBody r.body = .ok (body, readable) ∧ firstValues r.headers = .ok values ∧
      request = .make r.method (some (String.ofList parts.path))
        (if parts.query.isEmpty then String.ofList parts.path
          else s!"{String.ofList parts.path}?{String.ofList parts.query}") values body := by
  rw [inbound]
  cases readBody r.body with
  | error fault => simp
  | ok body =>
    obtain ⟨body, readable⟩ := body
    cases firstValues r.headers with
    | error fault => simp [Except.map]
    | ok values =>
      constructor
      · rintro ⟨⟩
        exact ⟨body, readable, values, rfl, rfl, rfl⟩
      · rintro ⟨_, _, _, ⟨⟩, ⟨⟩, rfl⟩
        rfl

/-- A request whose URL has parts is adapted when its body is not nested too deep and its headers
have values. -/
theorem inbound_isOk_iff (r : Request) (parts : Url.Parts) :
    (∃ request, (inbound r parts).1 = .ok request) ↔
      (r.body = [] ∨ Platform.readFault? r.body = none) ∧
        ∀ name ∈ Assoc.keys r.headers, lower name ∈ Assoc.keys r.headers := by
  rw [← readBody_isOk_iff]
  simp only [inbound_eq_ok_iff, firstValues_eq_ok_iff]
  constructor
  · rintro ⟨_, body, readable, _, hbody, ⟨hnames, -⟩, -⟩
    exact ⟨⟨_, hbody⟩, hnames⟩
  · rintro ⟨⟨⟨body, readable⟩, hbody⟩, hnames⟩
    exact ⟨_, body, readable, _, hbody, ⟨hnames, rfl⟩, rfl⟩

/-- What it takes for a request to get to the router and be routed. -/
structure Served (r : Request) : Prop where
  path : ∃ rest, r.path.toList = '/' :: rest ∧ '\n' ∉ rest.dropLast
  method : r.method ∈ methods
  url : ∃ query, Utf8.decode r.query = .ok query ∧
    ∀ fault, ¬Url.AuthorityFault (Url.authority (requestUrl r query)) fault
  body : r.body = [] ∨ Platform.readFault? r.body = none
  headers : ∀ name ∈ Assoc.keys r.headers, lower name ∈ Assoc.keys r.headers
  routed : ∀ parts request fault, Adapted r parts request → ¬Unroutable request fault

theorem adapted_unique {r : Request} {parts others : Url.Parts} {request other : InboundRequest}
    (h : Adapted r parts request) (h' : Adapted r others other) :
    parts = others ∧ request = other := by
  cases h.1.symm.trans h'.1
  cases h.2.symm.trans h'.2
  exact ⟨rfl, rfl⟩

theorem exists_adapted_iff (r : Request) :
    (∃ parts request, Adapted r parts request) ↔
      (∃ query, Utf8.decode r.query = .ok query ∧
        ∀ fault, ¬Url.AuthorityFault (Url.authority (requestUrl r query)) fault) ∧
      (r.body = [] ∨ Platform.readFault? r.body = none) ∧
        ∀ name ∈ Assoc.keys r.headers, lower name ∈ Assoc.keys r.headers := by
  rw [← splitUrl_isOk_iff]
  constructor
  · rintro ⟨parts, request, hparts, hrequest⟩
    exact ⟨⟨parts, hparts⟩, (inbound_isOk_iff r parts).mp ⟨request, hrequest⟩⟩
  · rintro ⟨⟨parts, hparts⟩, h⟩
    obtain ⟨request, hrequest⟩ := (inbound_isOk_iff r parts).mpr h
    exact ⟨parts, request, hparts, hrequest⟩

/-! ## Answers -/

/-- A path that the service does not have. -/
theorem answer_of_no_path (router : Router) {r : Request} (s : Sources)
    (hpath : hasPath r.path.toList = false) :
    answer router r s = ⟨.ok (plainError 404 "Not Found" []), s, [], []⟩ := by
  unfold answer
  rw [hpath]
  rfl

/-- A method that the service does not take. -/
theorem answer_of_other_method (router : Router) {r : Request} (s : Sources)
    (hpath : hasPath r.path.toList = true) (hmethod : r.method ∉ methods) :
    answer router r s =
      ⟨.ok (plainError 405 "Method Not Allowed" [("allow", ", ".intercalate methods)]), s, [],
        []⟩ := by
  have hrefused : methods.contains r.method = false := by simpa using hmethod
  unfold answer
  rw [hpath, hrefused]
  rfl

section

variable (router : Router) {r : Request} (s : Sources) (hpath : hasPath r.path.toList = true)
  (hmethod : r.method ∈ methods)

include hpath hmethod

/-- A request of which no other can be made for the router ends in a fault. -/
theorem answer_of_not_adapted (h : ¬∃ parts request, Adapted r parts request) :
    (answer router r s).response = internalError ∧ (answer router r s).calls = [] := by
  have htaken : methods.contains r.method = true := List.contains_iff_mem.mpr hmethod
  unfold answer
  simp only [hpath, htaken, Bool.not_true, Bool.false_eq_true, ↓reduceIte]
  cases hparts : splitUrl r with
  | error fault => exact ⟨rfl, rfl⟩
  | ok parts =>
    rcases hinbound : inbound r parts with ⟨_ | request, logs⟩
    · simp only [hinbound]
      exact ⟨rfl, trivial⟩
    · exact absurd ⟨parts, request, hparts, by rw [hinbound]⟩ h

/-- Where a request is made for the router, its answer is sent, or that it ended in a fault. -/
theorem answer_of_adapted {parts : Url.Parts} {request : InboundRequest}
    (h : Adapted r parts request) :
    (∀ response, (router.handle request s).outcome = .ok response →
        (answer router r s).response = ofOutbound response) ∧
      (∀ fault, (router.handle request s).outcome = .error fault →
        (answer router r s).response = internalError) ∧
      (answer router r s).calls = (router.handle request s).calls := by
  have htaken : methods.contains r.method = true := List.contains_iff_mem.mpr hmethod
  obtain ⟨hparts, hrequest⟩ := h
  unfold answer
  rcases hinbound : inbound r parts with ⟨found, logs⟩
  rw [hinbound] at hrequest
  obtain rfl : found = .ok request := hrequest
  simp only [hpath, htaken, hparts, hinbound, Bool.not_true, Bool.false_eq_true, ↓reduceIte]
  exact ⟨fun response hresponse => by rw [hresponse]; rfl, fun fault hfault => by rw [hfault]; rfl,
    trivial⟩

end

theorem served_iff (r : Request) :
    Served r ↔ hasPath r.path.toList = true ∧ r.method ∈ methods ∧ ∃ parts request,
      Adapted r parts request ∧ ∀ fault, ¬Unroutable request fault := by
  rw [hasPath_iff]
  constructor
  · intro h
    obtain ⟨parts, request, hadapted⟩ := (exists_adapted_iff r).mpr ⟨h.url, h.body, h.headers⟩
    exact ⟨h.path, h.method, parts, request, hadapted,
      fun fault => h.routed parts request fault hadapted⟩
  · rintro ⟨hpath, hmethod, parts, request, hadapted, hrouted⟩
    obtain ⟨hurl, hbody, hheaders⟩ := (exists_adapted_iff r).mp ⟨parts, request, hadapted⟩
    refine ⟨hpath, hmethod, hurl, hbody, hheaders, fun others other fault hother => ?_⟩
    obtain ⟨-, rfl⟩ := adapted_unique hadapted hother
    exact hrouted fault

/-- A request is answered with an envelope exactly when it is served, and otherwise by the
framework. -/
theorem answer_isEnvelope_iff (settings : Settings) (r : Request) (s : Sources) :
    (IsEnvelope (answer settings.router r s).response ↔ Served r) ∧
      (¬Served r → (answer settings.router r s).response ∈ plainResponses) := by
  have hregistry : settings.router.registry =
      .default (some settings.functionBaseUrl) settings.functionBaseUrl := rfl
  have hplain {response : Response} (hresponse : response ∈ plainResponses)
      (hserved : ¬Served r) :
      (IsEnvelope response ↔ Served r) ∧ (¬Served r → response ∈ plainResponses) :=
    ⟨iff_of_false (not_isEnvelope_of_plain hresponse) hserved, fun _ => hresponse⟩
  cases hpath : hasPath r.path.toList with
  | false =>
    rw [answer_of_no_path _ s hpath]
    refine hplain (by simp [plainResponses, Answer.response]) fun h => ?_
    cases hpath.symm.trans ((served_iff r).mp h).1
  | true =>
    by_cases hmethod : r.method ∈ methods
    · by_cases hadapted : ∃ parts request, Adapted r parts request
      · obtain ⟨parts, request, hadapted⟩ := hadapted
        obtain ⟨hanswered, hfailed, -⟩ :=
          answer_of_adapted settings.router s hpath hmethod hadapted
        cases houtcome : (settings.router.handle request s).outcome with
        | error fault =>
          have hunroutable := (settings.router.handle_error_iff request s fault).mp houtcome
          rw [hfailed fault houtcome]
          refine hplain (by simp [plainResponses]) fun h => ?_
          exact h.routed parts request fault hadapted hunroutable
        | ok response =>
          have hserved : Served r := (served_iff r).mpr ⟨hpath, hmethod, parts, request, hadapted,
            fun fault h => by
              rw [← settings.router.handle_error_iff request s fault, houtcome] at h
              cases h⟩
          rw [hanswered response houtcome]
          refine ⟨iff_of_true ?_ hserved, fun h => absurd hserved h⟩
          exact isEnvelope_ofOutbound (settings.router.handle_envelopes request s response houtcome)
            fun members => settings.router.handle_finite hregistry request s houtcome
      · rw [(answer_of_not_adapted _ s hpath hmethod hadapted).1]
        refine hplain (by simp [plainResponses]) fun h => ?_
        exact hadapted ((exists_adapted_iff r).mpr ⟨h.url, h.body, h.headers⟩)
    · rw [answer_of_other_method _ s hpath hmethod]
      exact hplain (by simp [plainResponses, Answer.response]) fun h => hmethod h.method

end

end Http

end RegistryGateway
