import RegistryGateway.Proofs.Resolution

/-! The Host header.  A URL that names no origin is read behind the host that its request names, and
the two are taken apart again.  A host text that ends where the authority ends has no say in the
route; one that holds a mark or is no authority changes the route of some request, or leaves it with
no response. -/

namespace RegistryGateway

open Url

namespace InboundRequest

/-- A URL with a slash in front. -/
def rooted (url : List Char) : List Char :=
  match url with
  | '/' :: _ => url
  | _ => '/' :: url

/-- The text that stands for a host. -/
def hostText (host : Option String) : List Char := (orElse host "localhost").toList

/-- The text that the URL of a request is read behind. -/
def ownHost (request : InboundRequest) : List Char := hostText (request.headers.get? "host")

/-- A request with another Host header, or with none. -/
def withHost (request : InboundRequest) (host : Option String) : InboundRequest :=
  { request with
    headers := match host with
      | some value => request.headers.put "host" value
      | none => request.headers.filter (·.1 ≠ "host") }

/-- A request that has neither an explicit path nor an origin in its URL. -/
structure Relative (request : InboundRequest) : Prop where
  path : request.path = none ∨ request.path = some ""
  url : ¬"://".toList <:+: request.url.toList

/-- The path of a request's own URL. -/
def ownPath (request : InboundRequest) : String :=
  String.ofList (pathOf (stripped (rooted request.url.toList)))

/-- A host that leads no request astray: each goes to its own path, and is handled as without a
host. -/
structure Inert [Platform] (host : Option String) : Prop where
  path : ∀ request, Relative request →
    (request.withHost host).resolvePath = .ok request.ownPath
  handle : ∀ (r : Router) (request : InboundRequest) (s : Sources), Relative request →
    r.handle (request.withHost host) s = r.handle (request.withHost none) s

/-- A host text that is an authority and nothing more. -/
structure Confined (host : List Char) : Prop where
  unmarked : ∀ c ∈ host, isMark c = false
  sound : ∀ fault, ¬AuthorityFault (stripped host) fault

variable {request : InboundRequest}

theorem holdsOrigin_iff (text : List Char) :
    holdsOrigin text = true ↔ "://".toList <:+: text := by
  induction text with
  | nil => simp [holdsOrigin]
  | cons c rest ih =>
    rw [holdsOrigin, Bool.or_eq_true, ih, List.infix_cons_iff, List.isPrefixOf_iff_prefix]

theorem stripped_rooted (url : List Char) : ∃ rest, stripped (rooted url) = '/' :: rest := by
  unfold rooted
  split
  · exact ⟨_, rfl⟩
  · exact ⟨_, rfl⟩

/-! ## What a host is pasted into -/

theorem url_withHost (host : Option String) :
    (request.withHost host).url = request.url := rfl

theorem get?_withHost (host : Option String) :
    (request.withHost host).headers.get? "host" = host := by
  cases host with
  | none => exact Assoc.get?_filter (· ≠ "host") request.headers "host"
  | some value => simp [withHost, Assoc.get?_put]

theorem header_withHost (host : Option String) {name : String} (h : lower name ≠ "host") :
    (request.withHost host).header name = request.header name := by
  cases host with
  | none =>
    have hfilter := Assoc.get?_filter (· ≠ "host") request.headers (lower name)
    rw [if_pos (by simpa using h)] at hfilter
    exact hfilter
  | some value => simp [header, withHost, Assoc.get?_put, Ne.symm h]

theorem Relative.withHost (h : Relative request) (host : Option String) :
    Relative (request.withHost host) := ⟨h.path, h.url⟩

theorem ownHost_withHost (host : Option String) :
    (request.withHost host).ownHost = hostText host := by rw [ownHost, get?_withHost]

theorem absoluteUrl_of_relative (h : Relative request) :
    request.absoluteUrl =
      "http".toList ++ "://".toList ++ (request.ownHost ++ rooted request.url.toList) := by
  have hurl : rooted (orElse (some request.url) "/").toList = rooted request.url.toList := by
    by_cases he : request.url = "" <;> simp [orElse, he, rooted]
  have horigin : holdsOrigin (orElse (some request.url) "/").toList = false := by
    by_cases he : request.url = ""
    · rw [he]
      decide
    · rw [← Bool.not_eq_true, holdsOrigin_iff]
      simpa [orElse, he] using h.url
  rw [← hurl]
  simp only [absoluteUrl, horigin, Bool.false_eq_true, if_false]
  rw [List.append_assoc]
  rfl

/-- A URL that has an origin is read by itself. -/
theorem absoluteUrl_of_origin (h : "://".toList <:+: request.url.toList) :
    request.absoluteUrl = request.url.toList := by
  have hne : request.url ≠ "" := by
    intro he
    rw [he, ← holdsOrigin_iff] at h
    exact absurd h (by decide)
  rw [absoluteUrl, orElse, if_neg hne, if_pos ((holdsOrigin_iff _).mpr h)]

/-- What comes of a request at its host: the host text is cut at its first mark, and what is cut off
comes before the request's own path. -/
theorem resolvePath_of_relative (h : Relative request) (path : String) :
    request.resolvePath = .ok path ↔
      (∀ fault, ¬AuthorityFault (cut isMark (stripped request.ownHost)).1 fault) ∧
        path = pathText (pathOf ((cut isMark (stripped request.ownHost)).2 ++
          stripped (rooted request.url.toList))) := by
  have happend : stripped (request.ownHost ++ rooted request.url.toList) =
      stripped request.ownHost ++ stripped (rooted request.url.toList) := List.filter_append ..
  rw [resolvePath_eq_ok_iff h.path, absoluteUrl_of_relative h,
    authority_absolute isScheme_http, remainder_absolute isScheme_http, happend]
  obtain ⟨rest, hrest⟩ := stripped_rooted request.url.toList
  rw [hrest, cut_append_cons (by decide)]

theorem resolvePath_withHost (h : Relative request) (host : Option String) (path : String) :
    (request.withHost host).resolvePath = .ok path ↔
      (∀ fault, ¬AuthorityFault (cut isMark (stripped (hostText host))).1 fault) ∧
        path = pathText (pathOf ((cut isMark (stripped (hostText host))).2 ++
          stripped (rooted request.url.toList))) := by
  rw [resolvePath_of_relative (h.withHost host), ownHost_withHost, url_withHost]

theorem ownPath_eq (request : InboundRequest) :
    pathText (pathOf (stripped (rooted request.url.toList))) = request.ownPath := by
  obtain ⟨rest, hrest⟩ := stripped_rooted request.url.toList
  rw [ownPath, hrest]
  rfl

/-- An ASCII text without marks and brackets is confined. -/
theorem confined_of_ascii {host : List Char} (hmark : ∀ c ∈ host, isMark c = false)
    (hopen : '[' ∉ host) (hclose : ']' ∉ host) (hascii : ∀ c ∈ host, c.toNat < 128) :
    Confined host := by
  refine ⟨hmark, fun fault h => ?_⟩
  have hsub : ∀ c ∈ stripped host, c ∈ host := fun c hc => List.mem_of_mem_filter hc
  cases h with
  | brackets h =>
    cases h with
    | unbalanced h => exact h (iff_of_false (hopen ∘ hsub _) (hclose ∘ hsub _))
    | host h => exact hclose (hsub _ h.closed)
  | @compatibility c _ hmem hcode =>
    have hlarge : ∀ code ∈ compatibilityCodes, 128 ≤ code := by decide
    have := hlarge _ hcode
    have := hascii c (hsub c hmem)
    omega

theorem Confined.resolvePath (h : Confined request.ownHost) (hrelative : Relative request) :
    request.resolvePath = .ok request.ownPath := by
  have hclear : ∀ c ∈ stripped request.ownHost, isMark c = false :=
    (isMark_stripped_iff _).mpr h.unmarked
  rw [resolvePath_of_relative hrelative, cut_of_clear hclear]
  exact ⟨h.sound, (ownPath_eq request).symm⟩

theorem Confined.path {host : Option String} (h : Confined (hostText host))
    (hrelative : Relative request) :
    (request.withHost host).resolvePath = .ok request.ownPath := by
  rw [← @ownHost_withHost request host] at h
  exact h.resolvePath (hrelative.withHost host)

/-- A host that leaves each request its own path is confined: what its first mark cuts off would
come before the path. -/
theorem Confined.of_path {host : Option String}
    (h : ∀ request, Relative request →
      (request.withHost host).resolvePath = .ok request.ownPath) :
    Confined (hostText host) := by
  have hroot : Relative (.make "GET" none "/" [] .null) := ⟨.inl rfl, by decide⟩
  have hleaf : Relative (.make "GET" none "/a" [] .null) := ⟨.inl rfl, by decide⟩
  obtain ⟨hsound, hrootPath⟩ := (resolvePath_withHost hroot host _).mp (h _ hroot)
  obtain ⟨-, hleafPath⟩ := (resolvePath_withHost hleaf host _).mp (h _ hleaf)
  obtain ⟨hparts, hfirst⟩ := cut_parts isMark (stripped (hostText host))
  generalize (cut isMark (stripped (hostText host))).1 = authority at hparts hfirst hsound
  generalize (cut isMark (stripped (hostText host))).2 = left at hparts hrootPath hleafPath
  change "/" = pathText (pathOf (left ++ ['/'])) at hrootPath
  change "/a" = pathText (pathOf (left ++ ['/', 'a'])) at hleafPath
  -- Behind a question mark or a hash nothing of the URL counts, so both would have one path.
  by_cases hclear : ∀ c ∈ left, endsPath c = false
  · rw [pathOf_append_of_clear hclear] at hrootPath
    obtain rfl : left = [] := by
      have hlist := congrArg String.toList hrootPath
      simpa [pathText, pathOf, cut, endsPath] using hlist
    rw [List.append_nil] at hparts
    subst hparts
    exact ⟨(isMark_stripped_iff _).mp hfirst, hsound⟩
  · obtain ⟨c, hc, hend⟩ : ∃ c ∈ left, endsPath c = true := by simpa using hclear
    rw [pathOf_append_of_ended hc hend] at hrootPath hleafPath
    exact absurd (hrootPath.trans hleafPath.symm) (by decide)

end InboundRequest

namespace Router

open InboundRequest

/-- The router goes by the method, the path, the correlation id and the body of a request. -/
theorem handle_congr [Platform] (r : Router) {first second : InboundRequest} (s : Sources)
    (hmethod : first.method = second.method) (hpath : first.resolvePath = second.resolvePath)
    (hcorrelation : first.header correlationHeader = second.header correlationHeader)
    (hbody : first.body = second.body) : r.handle first s = r.handle second s := by
  have hreply (path traceId : String) (s : Sources) :
      r.reply path first traceId s = r.reply path second traceId s := by
    simp only [reply, dispatch, hmethod, hbody]
  simp only [handle, trace, hmethod, hpath, hcorrelation, hreply]

end Router

namespace InboundRequest

/-- The Host header has no say in the route exactly when its text is an authority and nothing
more. -/
theorem inert_iff_confined [Platform] (host : Option String) :
    Inert host ↔ Confined (hostText host) := by
  constructor
  · intro h
    exact .of_path h.path
  · intro h
    have hnone : Confined (hostText none) :=
      confined_of_ascii (by simp [hostText, orElse, isMark]) (by decide) (by decide)
        (by simp [hostText, orElse])
    have hheader : lower Router.correlationHeader ≠ "host" := by decide
    refine ⟨fun request hrelative => h.path hrelative, fun r request s hrelative => ?_⟩
    have hpath : (request.withHost host).resolvePath = (request.withHost none).resolvePath := by
      rw [h.path hrelative, hnone.path hrelative]
    have hcorrelation : (request.withHost host).header Router.correlationHeader =
        (request.withHost none).header Router.correlationHeader := by
      rw [header_withHost host hheader, header_withHost none hheader]
    exact r.handle_congr s rfl hpath hcorrelation rfl

/-- A host with a path and a question mark leads every request to that path. -/
theorem resolvePath_led_astray :
    ¬∀ (request : InboundRequest) (first second : Option String), Relative request →
      ∃ path, (request.withHost first).resolvePath = .ok path ∧
        (request.withHost second).resolvePath = .ok path := by
  intro h
  have hrelative : Relative (.make "GET" none "/contracts" [] .null) :=
    ⟨.inl rfl, by rw [← holdsOrigin_iff]; decide⟩
  obtain ⟨path, hown, hother⟩ := h _ none (some "x/health?") hrelative
  have hcontracts : path = "/contracts" := ((resolvePath_withHost hrelative _ _).mp hown).2
  have hhealth : path = "/health" := ((resolvePath_withHost hrelative _ _).mp hother).2
  exact absurd (hcontracts.symm.trans hhealth) (by decide)

end InboundRequest

end RegistryGateway
