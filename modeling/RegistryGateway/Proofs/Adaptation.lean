import RegistryGateway.Proofs.RequestPath
import RegistryGateway.Proofs.Transport

/-! From an HTTP request to the router's.  The path of a request is written into a URL, behind the
host that the request names, and read off again: what the platform escapes comes back escaped, tabs
and line breaks are lost on the way, and a mark that is left ends the path.  Behind a host that is
an authority and nothing more, the rest comes back as it was; any other host leads requests astray.
The router goes by the path that comes back, so a request with a tab in its path may be served at
another route. -/

namespace RegistryGateway.Http

open InboundRequest (Confined)

/-- A query behind its mark. -/
def markedQuery (query : List Char) : List Char := if query.isEmpty then [] else '?' :: query

/-- Path and query are read off what follows the authority. -/
theorem split_congr {first second : List Char} {parts others : Url.Parts}
    (hfirst : Url.split first = .ok parts) (hsecond : Url.split second = .ok others)
    (h : Url.remainder first = Url.remainder second) :
    parts.path = others.path ∧ parts.query = others.query := by
  have hquery {text : List Char} {parts : Url.Parts} (hsplit : Url.split text = .ok parts) :
      parts.query = (Url.cutAt '?' (Url.cutAt '#' (Url.remainder text)).1).2 := by
    simp only [Url.split] at hsplit
    split at hsplit
    · cases hsplit
    split at hsplit
    · cases hsplit
    · cases hsplit
      rfl
  rw [Url.split_path hfirst, Url.split_path hsecond, hquery hfirst, hquery hsecond, h]
  exact ⟨rfl, rfl⟩

/-- A query does not get into the path before it. -/
theorem pathOf_append_markedQuery (text query : List Char) :
    Url.pathOf (text ++ Url.stripped (markedQuery query)) = Url.pathOf text := by
  have hquery : Url.pathOf (Url.stripped (markedQuery query)) = [] := by
    unfold markedQuery
    split <;> rfl
  by_cases hclear : ∀ c ∈ text, Url.endsPath c = false
  · rw [Url.pathOf_append_of_clear hclear, hquery, List.append_nil, Url.pathOf,
      Url.cut_of_clear hclear]
  · obtain ⟨c, hc, hend⟩ : ∃ c ∈ text, Url.endsPath c = true := by simpa using hclear
    exact Url.pathOf_append_of_ended hc hend _

section

variable [Platform]

/-- The path that comes back: the characters as the platform writes them, without tabs and line
breaks, before the first mark that ends a path. -/
def routedPath (path : String) : String :=
  .ofList (Url.pathOf (Url.stripped (path.toList.flatMap Platform.urlChar)))

/-- The characters that do not come back as they were. -/
def isBent (c : Char) : Bool := Platform.urlChar c ≠ [c] || Url.endsPath c || Url.isDropped c

/-- The path of a URL at any host: what the first mark of the host cuts off comes before the
path. -/
def pathBehind (host : List Char) (path : String) : String :=
  .ofList (Url.pathOf ((Url.cut Url.isMark (Url.stripped host)).2 ++
    Url.stripped (path.toList.flatMap Platform.urlChar)))

/-- The host in the URL of a request. -/
def hostOf (r : Request) : List Char := Platform.urlHost (Assoc.get? r.headers "host")

/-- The URL of a path and a query at a host. -/
def urlAt (scheme host path query : List Char) : List Char :=
  scheme ++ "://".toList ++ (host ++ (path.flatMap Platform.urlChar ++ markedQuery query))

/-- Every path is read off its URL at the host as it was written there. -/
def Transparent (host : List Char) : Prop :=
  ∀ path rest query : List Char, path = '/' :: rest →
    ∃ parts, Url.split (urlAt "http".toList host path query) = .ok parts ∧
      parts.path = Url.pathOf (Url.stripped (path.flatMap Platform.urlChar))

/-- How a request at a confined host gets to the router. -/
structure Routed (router : Router) (r : Request) (s : Sources) (request : InboundRequest)
    (path : String) : Prop where
  /-- The router gets one and the same request whatever the scheme and the host are. -/
  adapted : ∀ query scheme host, Utf8.decode r.query = .ok query → Url.IsScheme scheme →
    Confined host → ∃ parts, Url.split (urlAt scheme host r.path.toList query) = .ok parts ∧
      (inbound r parts).1 = .ok request
  resolved : request.resolvePath = .ok path
  answered : ∃ response, (router.handle request s).outcome = .ok response ∧
    (answer router r s).response = ofOutbound response
  called : (answer router r s).calls = (router.handle request s).calls
  /-- A path that is no route is named in the answer. -/
  reported : request.method ≠ "OPTIONS" → Route.ofPath path = .unknown →
    ∃ members, (answer router r s).response.status = 404 ∧
      (answer router r s).response.body = (Json.obj members).wire ∧
      Assoc.get? members "error" = some (.str ("Route not found: " ++ path))

/-! ## Paths -/

/-- What the platform writes for a character holds no tab, no line break and no mark unless the
character is one. -/
theorem urlChar_plain {c : Char} (hends : Url.endsPath c = false)
    (hkept : Url.isDropped c = false) :
    ∀ d ∈ Platform.urlChar c, Url.endsPath d = false ∧ Url.isDropped d = false := by
  have hdigit {x : Char} (hx : isHexDigit x = true) :
      Url.endsPath x = false ∧ Url.isDropped x = false := by
    simp only [Url.endsPath, Url.isDropped, Bool.or_eq_false_iff, decide_eq_false_iff_not]
    refine ⟨⟨?_, ?_⟩, ⟨?_, ?_⟩, ?_⟩ <;>
      · rintro rfl
        cases hx
  obtain h | ⟨x, y, h, hx, hy⟩ := Platform.urlChar_cases c
  · rw [h]
    simp [hends, hkept]
  · rw [h]
    simp only [List.forall_mem_cons]
    exact ⟨by decide, hdigit hx, hdigit hy, List.forall_mem_nil _⟩

/-- No tab, no line break and no mark is in a path that came back. -/
theorem plain_routedPath (path : String) :
    ∀ c ∈ (routedPath path).toList, Url.endsPath c = false ∧ Url.isDropped c = false := by
  rw [routedPath, String.toList_ofList]
  exact Url.pathOf_stripped_plain _

/-- A path without tabs, line breaks and marks comes back as the platform writes it. -/
theorem routedPath_of_plain {path : String}
    (h : ∀ c ∈ path.toList, Url.endsPath c = false ∧ Url.isDropped c = false) :
    (routedPath path).toList = path.toList.flatMap Platform.urlChar := by
  have hplain : ∀ c ∈ path.toList.flatMap Platform.urlChar,
      Url.endsPath c = false ∧ Url.isDropped c = false := by
    intro c hc
    obtain ⟨d, hd, hc⟩ := List.mem_flatMap.mp hc
    exact urlChar_plain (h d hd).1 (h d hd).2 c hc
  have hstripped : Url.stripped (path.toList.flatMap Platform.urlChar) =
      path.toList.flatMap Platform.urlChar :=
    List.filter_eq_self.mpr fun c hc => by simp [(hplain c hc).2]
  rw [routedPath, String.toList_ofList, hstripped, Url.pathOf,
    Url.cut_of_clear fun c hc => (hplain c hc).1]

/-- Characters are written as themselves where a text is written as itself: each is written as one
character or as three. -/
theorem urlChar_of_flatMap_eq {text : List Char}
    (h : text.flatMap Platform.urlChar = text) : ∀ c ∈ text, Platform.urlChar c = [c] := by
  have hlength (c : Char) : 1 ≤ (Platform.urlChar c).length := by
    obtain h | ⟨x, y, h, -⟩ := Platform.urlChar_cases c <;> simp [h]
  have hlonger (text : List Char) : text.length ≤ (text.flatMap Platform.urlChar).length := by
    induction text with
    | nil => exact Nat.le_refl 0
    | cons c rest ih =>
      have := hlength c
      rw [List.flatMap_cons, List.length_append, List.length_cons]
      omega
  induction text with
  | nil => nofun
  | cons c rest ih =>
    rw [List.flatMap_cons] at h
    obtain hc | ⟨x, y, hc, -⟩ := Platform.urlChar_cases c
    · rw [hc, List.singleton_append] at h
      exact List.forall_mem_cons.mpr ⟨hc, ih (List.cons.inj h).2⟩
    · have hlengths := congrArg List.length h
      have := hlonger rest
      rw [hc, List.length_append, List.length_cons] at hlengths
      simp only [List.length_cons, List.length_nil] at hlengths
      omega

/-- A path comes back as it was exactly when none of its characters is bent. -/
theorem routedPath_eq_iff (path : String) :
    routedPath path = path ↔ ∀ c ∈ path.toList, isBent c = false := by
  have hbent (c : Char) : isBent c = false ↔
      Platform.urlChar c = [c] ∧ Url.endsPath c = false ∧ Url.isDropped c = false := by
    simp [isBent, and_assoc]
  simp only [hbent]
  constructor
  · intro h c hc
    have hplain := plain_routedPath path
    rw [h] at hplain
    have hwritten := routedPath_of_plain hplain
    rw [h] at hwritten
    exact ⟨urlChar_of_flatMap_eq hwritten.symm c hc, hplain c hc⟩
  · intro h
    have hwritten := routedPath_of_plain fun c hc => (h c hc).2
    rw [List.flatMap_congr fun c hc => (h c hc).1, List.flatMap_singleton'] at hwritten
    rw [← String.ofList_toList (s := routedPath path), hwritten, String.ofList_toList]

/-! ## URLs at a host -/

theorem inbound_congr (r : Request) {parts others : Url.Parts} (hpath : parts.path = others.path)
    (hquery : parts.query = others.query) : inbound r parts = inbound r others := by
  simp only [inbound, hpath, hquery]

section

variable {path rest : List Char} (hpath : path = '/' :: rest)
include hpath

theorem flatMap_urlChar_of_slash :
    path.flatMap Platform.urlChar = '/' :: rest.flatMap Platform.urlChar := by
  rw [hpath, List.flatMap_cons, Platform.urlChar_slash, List.singleton_append]

/-- The URL is taken apart where the host has its first mark, or else where the path starts. -/
theorem parts_urlAt {scheme : List Char} (hscheme : Url.IsScheme scheme) (host query : List Char) :
    Url.authority (urlAt scheme host path query) = (Url.cut Url.isMark (Url.stripped host)).1 ∧
      Url.remainder (urlAt scheme host path query) =
        (Url.cut Url.isMark (Url.stripped host)).2 ++
          (Url.stripped (path.flatMap Platform.urlChar) ++ Url.stripped (markedQuery query)) := by
  have hstripped : Url.stripped (host ++ (path.flatMap Platform.urlChar ++ markedQuery query)) =
      Url.stripped host ++ (Url.stripped (path.flatMap Platform.urlChar) ++
        Url.stripped (markedQuery query)) := by
    simp only [Url.stripped, List.filter_append]
  have hslash : Url.stripped (path.flatMap Platform.urlChar) =
      '/' :: Url.stripped (rest.flatMap Platform.urlChar) := by
    rw [flatMap_urlChar_of_slash hpath]
    rfl
  have hmark : Url.isMark '/' = true := by decide
  have hcut := Url.cut_append_cons hmark (Url.stripped host)
    (Url.stripped (rest.flatMap Platform.urlChar) ++ Url.stripped (markedQuery query))
  rw [← List.cons_append, ← hslash] at hcut
  rw [urlAt, Url.authority_absolute hscheme, Url.remainder_absolute hscheme, hstripped, hcut]
  exact ⟨rfl, rfl⟩

/-- At every host that is an authority and nothing more, the URL has parts, and the path is what was
written. -/
theorem split_urlAt {scheme host : List Char} (hscheme : Url.IsScheme scheme)
    (hhost : Confined host) (query : List Char) :
    ∃ parts, Url.split (urlAt scheme host path query) = .ok parts ∧
      parts.path = Url.pathOf (Url.stripped (path.flatMap Platform.urlChar)) ∧
      Url.remainder (urlAt scheme host path query) =
        Url.stripped (path.flatMap Platform.urlChar) ++ Url.stripped (markedQuery query) := by
  have hclear : Url.cut Url.isMark (Url.stripped host) = (Url.stripped host, []) :=
    Url.cut_of_clear ((Url.isMark_stripped_iff host).mpr hhost.unmarked)
  obtain ⟨hauthority, hremainder⟩ := parts_urlAt hpath hscheme host query
  rw [hclear] at hauthority hremainder
  rw [List.nil_append] at hremainder
  cases hsplit : Url.split (urlAt scheme host path query) with
  | error fault =>
    have hfault := (Url.split_error_iff _ fault).mp hsplit
    rw [hauthority] at hfault
    exact absurd hfault (hhost.sound fault)
  | ok parts =>
    refine ⟨parts, rfl, ?_, hremainder⟩
    rw [Url.split_path hsplit, hremainder, pathOf_append_markedQuery]

theorem pathOf_stripped_ne_nil :
    Url.pathOf (Url.stripped (path.flatMap Platform.urlChar)) ≠ [] := by
  rw [flatMap_urlChar_of_slash hpath]
  exact List.cons_ne_nil '/' _

end

/-- A host leaves every path as it is written exactly when it is an authority and nothing more: what
its first mark cuts off would come before the path. -/
theorem transparent_iff_confined (host : List Char) : Transparent host ↔ Confined host := by
  constructor
  · intro h
    obtain ⟨parts, hparts, hroot⟩ := h ['/'] [] [] rfl
    obtain ⟨others, hothers, hleaf⟩ := h ['/', '/'] ['/'] [] rfl
    obtain ⟨hauthority, hremainder⟩ := parts_urlAt (show ['/'] = '/' :: [] from rfl)
      Url.isScheme_http host []
    obtain ⟨-, hremainder'⟩ := parts_urlAt (show ['/', '/'] = '/' :: ['/'] from rfl)
      Url.isScheme_http host []
    rw [Url.split_path hparts, hremainder, ← List.append_assoc, pathOf_append_markedQuery] at hroot
    rw [Url.split_path hothers, hremainder', ← List.append_assoc, pathOf_append_markedQuery]
      at hleaf
    simp only [List.flatMap_cons, List.flatMap_nil, Platform.urlChar_slash] at hroot hleaf
    obtain ⟨hcut, hfirst⟩ := Url.cut_parts Url.isMark (Url.stripped host)
    have hsound (fault : UrlFault) :
        ¬Url.AuthorityFault (Url.cut Url.isMark (Url.stripped host)).1 fault := by
      rw [← hauthority, ← Url.split_error_iff, hparts]
      nofun
    generalize (Url.cut Url.isMark (Url.stripped host)).1 = authority at hcut hfirst hsound
    generalize (Url.cut Url.isMark (Url.stripped host)).2 = left at hcut hroot hleaf
    change Url.pathOf (left ++ ['/']) = ['/'] at hroot
    change Url.pathOf (left ++ ['/', '/']) = ['/', '/'] at hleaf
    -- Behind a question mark or a hash nothing of the URL counts, so both would have one path.
    by_cases hclear : ∀ c ∈ left, Url.endsPath c = false
    · rw [Url.pathOf_append_of_clear hclear] at hroot
      obtain rfl : left = [] := by simpa [Url.pathOf, Url.cut, Url.endsPath] using hroot
      rw [List.append_nil] at hcut
      subst hcut
      exact ⟨(Url.isMark_stripped_iff host).mp hfirst, hsound⟩
    · obtain ⟨c, hc, hend⟩ : ∃ c ∈ left, Url.endsPath c = true := by simpa using hclear
      rw [Url.pathOf_append_of_ended hc hend] at hroot hleaf
      exact absurd (hroot.symm.trans hleaf) (by decide)
  · intro h path rest query hpath
    obtain ⟨parts, hparts, hown, -⟩ := split_urlAt hpath Url.isScheme_http h query
    exact ⟨parts, hparts, hown⟩

/-! ## Answers -/

theorem requestUrl_eq_urlAt (r : Request) (query : List Char) :
    requestUrl r query = urlAt "http".toList (hostOf r) r.path.toList query := by
  have hscheme : "http://".toList = "http".toList ++ "://".toList := by decide
  unfold requestUrl urlAt hostOf markedQuery
  rw [hscheme]
  generalize "http".toList ++ "://".toList = start
  simp only [List.append_assoc]

section

variable {r : Request} {parts : Url.Parts} {request : InboundRequest}

/-- The path of an adapted request is the one of its URL. -/
theorem Adapted.path (h : Adapted r parts request) :
    request.path = some (String.ofList parts.path) := by
  obtain ⟨_, _, _, -, -, rfl⟩ := (inbound_eq_ok_iff r parts request).mp h.2
  rfl

theorem Adapted.pathBehind (h : Adapted r parts request) {rest : List Char}
    (hpath : r.path.toList = '/' :: rest) :
    request.path = some (pathBehind (hostOf r) r.path) := by
  obtain ⟨query, -, hsplit⟩ := (splitUrl_eq_ok_iff r parts).mp h.1
  rw [requestUrl_eq_urlAt] at hsplit
  rw [h.path, Http.pathBehind, Url.split_path hsplit,
    (parts_urlAt hpath Url.isScheme_http _ _).2, ← List.append_assoc, pathOf_append_markedQuery]

end

/-- The router names the path of a request that it has no route for. -/
theorem handle_unknown (router : Router) {request : InboundRequest} (s : Sources) {path : String}
    (hmethod : request.method ≠ "OPTIONS") (hresolved : request.resolvePath = .ok path)
    (hunknown : Route.ofPath path = .unknown) :
    ∃ response members, (router.handle request s).outcome = .ok response ∧
      response.status = 404 ∧ response.body = some members ∧
      Assoc.get? members "error" = some (.str ("Route not found: " ++ path)) := by
  have hexit : Router.Exit router request path (router.metadata request s).1.traceId
      (router.metadata request s).2
      ⟨Router.unknownReply path, (router.metadata request s).2, [], []⟩ :=
    .unknown hunknown
  have hdispatched : router.dispatched request path s =
      ⟨Router.unknownReply path, (router.metadata request s).2, [], []⟩ := by
    simp only [Router.dispatched, Router.reply, hunknown]
  rw [router.handle_resolved s hmethod hresolved, hdispatched]
  refine ⟨_, _, rfl, rfl, hexit.body _, ?_⟩
  rfl

/-- A request at a confined host is routed to the path that comes back. -/
theorem routed_of_confined (router : Router) {r : Request} (s : Sources) {parts : Url.Parts}
    {request : InboundRequest} (htaken : hasPath r.path.toList = true)
    (hmethod : r.method ∈ methods) (hadapted : Adapted r parts request)
    (hhost : Confined (hostOf r)) :
    Routed router r s request (routedPath r.path) := by
  obtain ⟨rest, hpath, -⟩ := (hasPath_iff _).mp htaken
  obtain ⟨query, hquery, hsplit⟩ := (splitUrl_eq_ok_iff r parts).mp hadapted.1
  obtain ⟨found, hfound, hown, hremainder⟩ := split_urlAt hpath Url.isScheme_http hhost query
  rw [← requestUrl_eq_urlAt] at hfound hremainder
  obtain rfl : found = parts := Except.ok.inj (hfound.symm.trans hsplit)
  have hresolved : request.resolvePath = .ok (routedPath r.path) := by
    have hne : routedPath r.path ≠ "" := by
      intro h
      have hlist := congrArg String.toList h
      rw [routedPath, String.toList_ofList] at hlist
      exact pathOf_stripped_ne_nil hpath hlist
    have hexplicit : request.path = some (routedPath r.path) := by
      rw [hadapted.path, hown, routedPath]
    simp only [InboundRequest.resolvePath, hexplicit, hne, ↓reduceIte]
  obtain ⟨hanswered, -, hcalled⟩ := answer_of_adapted router s htaken hmethod hadapted
  refine ⟨?_, hresolved, ?_, hcalled, fun hoptions hunknown => ?_⟩
  · -- What follows the authority is the same at both hosts, and the request is read off that.
    intro query' scheme host hquery' hscheme hother
    cases hquery.symm.trans hquery'
    obtain ⟨others, hothers, -, hremainder'⟩ := split_urlAt hpath hscheme hother query
    obtain ⟨hpath', hquery'⟩ := split_congr hothers hsplit (hremainder'.trans hremainder.symm)
    refine ⟨others, hothers, ?_⟩
    rw [inbound_congr r hpath' hquery']
    exact hadapted.2
  · by_cases hoptions : request.method = "OPTIONS"
    · have houtcome := congrArg Handled.outcome (router.handle_options s hoptions)
      exact ⟨_, houtcome, hanswered _ houtcome⟩
    · have houtcome := congrArg Handled.outcome (router.handle_resolved s hoptions hresolved)
      exact ⟨_, houtcome, hanswered _ houtcome⟩
  · obtain ⟨response, members, hresponse, hstatus, hbody, herror⟩ :=
      handle_unknown router s hoptions hresolved hunknown
    rw [hanswered response hresponse]
    refine ⟨members, hstatus, ?_, herror⟩
    rw [ofOutbound, withLength, OutboundResponse.wire, hbody]

end

section

open scoped Platform

/-- Six characters are bent on the standard platform. -/
example (c : Char) : isBent c = true ↔ c ∈ ['?', '#', '\\', '\t', '\r', '\n'] := by
  by_cases h : c = '?' ∨ c = '#' ∨ c = '\\'
  · obtain rfl | rfl | rfl := h <;> decide
  · simp only [not_or] at h
    have hplain : Platform.urlChar c = [c] := by
      simp [Platform.urlChar, Platform.escapedChar, h]
    simp [isBent, hplain, Url.endsPath, Url.isDropped, h, or_assoc]

end

end RegistryGateway.Http
