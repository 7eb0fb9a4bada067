import RegistryGateway.Proofs.RequestPath

/-! The query of a request's URL.  A query is no part of what a URL is led to, as long as the URL is
read at the same host with it as without.  That is so unless the query brings an origin that the
rest of the URL does not have: the URL is then read by itself, which leads it elsewhere unless a
single slash comes first in it. -/

namespace RegistryGateway

namespace Url

/-! ## A query behind a text -/

theorem clean_append_question (text query : List Char) :
    clean (text ++ '?' :: query) = clean text ++ '?' :: stripped query := by
  have hstop : ('?' :: query).dropWhile isControlOrSpace = '?' :: query := rfl
  have hkept : stripped ('?' :: query) = '?' :: stripped query := rfl
  rw [clean, clean, List.dropWhile_append, hstop]
  split
  next hempty =>
    rw [List.isEmpty_iff.mp hempty]
    rfl
  · rw [List.filter_append]
    exact congrArg _ hkept

/-- A scheme ends before its colon, and a question mark is no part of one. -/
theorem takeScheme_append_question (text query : List Char) :
    takeScheme (text ++ '?' :: query) =
      ((takeScheme text).1, (takeScheme text).2 ++ '?' :: query) := by
  -- A colon of the query comes too late: the question mark stands before it.
  by_cases hcolon : ':' ∈ text
  · obtain ⟨before, after, rfl, hbefore⟩ := List.eq_append_cons_of_mem hcolon
    have hcut (rest : List Char) :
        cut (· = ':') (before ++ ':' :: rest) = (before, ':' :: rest) :=
      cut_append (fun c hc => decide_eq_false fun he => hbefore (he ▸ hc)) (by simp)
    simp only [takeScheme, List.append_assoc, List.cons_append, hcut]
    cases before with
    | nil => rfl
    | cons first more =>
      simp only
      split
      · rfl
      · simp
  · have hclear : ∀ c ∈ text, decide (c = ':') = false :=
      fun c hc => decide_eq_false fun he => hcolon (he ▸ hc)
    have hnone : takeScheme text = ([], text) := by
      simp only [takeScheme, cut_of_clear hclear]
    have hmem : '?' ∈ (cut (· = ':') (text ++ '?' :: query)).1 := by
      have hall : ∀ c ∈ text, (!decide (c = ':')) = true := fun c hc => by simp [hclear c hc]
      simp [cut, List.takeWhile_append_of_pos hall]
    have hall : (cut (· = ':') (text ++ '?' :: query)).1.all isSchemeChar = false :=
      List.all_eq_false.mpr ⟨'?', hmem, by decide⟩
    rw [hnone]
    simp only [takeScheme]
    split
    next first more after hfirst hsecond =>
      rw [if_neg (by simp [hall])]
    · rfl

theorem takeAuthority_of_not_slashes {text : List Char} (h : ¬"//".toList <+: text) :
    takeAuthority text = ([], text) := by
  unfold takeAuthority
  split
  next rest => exact absurd ⟨rest, rfl⟩ h
  · rfl

theorem slashes_append_question_iff (text query : List Char) :
    "//".toList <+: text ++ '?' :: query ↔ "//".toList <+: text := by
  rcases text with _ | ⟨first, _ | ⟨second, rest⟩⟩ <;> simp

theorem takeAuthority_append_question (text query : List Char) :
    takeAuthority (text ++ '?' :: query) =
      ((takeAuthority text).1, (takeAuthority text).2 ++ '?' :: query) := by
  by_cases h : "//".toList <+: text
  · obtain ⟨rest, rfl⟩ := h
    exact cut_append_cons (by decide) rest query
  · rw [takeAuthority_of_not_slashes h,
      takeAuthority_of_not_slashes (mt (slashes_append_question_iff text query).mp h)]

theorem authority_append_question (text query : List Char) :
    authority (text ++ '?' :: query) = authority text := by
  simp only [authority, clean_append_question, takeScheme_append_question,
    takeAuthority_append_question]

theorem pathOf_remainder_append_question (text query : List Char) :
    pathOf (remainder (text ++ '?' :: query)) = pathOf (remainder text) := by
  simp only [remainder, clean_append_question, takeScheme_append_question,
    takeAuthority_append_question]
  rw [pathOf, cut_append_cons (by decide)]
  rfl

/-- A question mark is no part of the mark of an origin. -/
theorem origin_append_question_iff (text query : List Char) :
    "://".toList <:+: text ++ '?' :: query ↔
      "://".toList <:+: text ∨ "://".toList <:+: query := by
  induction text with
  | nil =>
    simp [List.infix_cons_iff]
  | cons c rest ih =>
    have hfront : "://".toList <+: c :: rest ++ '?' :: query ↔ "://".toList <+: c :: rest := by
      rcases rest with _ | ⟨second, _ | ⟨third, rest⟩⟩ <;> simp
    rw [List.cons_append, List.infix_cons_iff, ← List.cons_append, hfront, ih,
      List.infix_cons_iff, or_assoc]

/-! ## The length of a path -/

theorem takeScheme_suffix (text : List Char) : (takeScheme text).2 <:+ text := by
  simp only [takeScheme]
  split
  next first more after hfirst hsecond =>
    split
    · rw [← (cut_parts (· = ':') text).1, hsecond]
      exact (List.suffix_cons ':' after).trans (List.suffix_append ..)
    · exact List.suffix_refl text
  · exact List.suffix_refl text

theorem takeAuthority_suffix (text : List Char) : (takeAuthority text).2 <:+ text := by
  by_cases h : "//".toList <+: text
  · obtain ⟨rest, rfl⟩ := h
    have hrest : (cut isMark rest).2 <:+ rest := List.dropWhile_suffix _
    exact hrest.trans (List.suffix_append ..)
  · simp only [takeAuthority_of_not_slashes h, List.suffix_refl]

theorem length_pathOf_le (text : List Char) : (pathOf text).length ≤ text.length :=
  (List.takeWhile_sublist _).length_le

theorem length_clean_le (text : List Char) : (clean text).length ≤ (stripped text).length :=
  ((List.dropWhile_sublist _).filter _).length_le

theorem length_remainder_le (text : List Char) :
    (remainder text).length ≤ (stripped text).length := by
  have hauthority := (takeAuthority_suffix (takeScheme (clean text)).2).length_le
  have hscheme := (takeScheme_suffix (clean text)).length_le
  exact hauthority.trans (hscheme.trans (length_clean_le text))

/-! ## Texts that start with a slash -/

theorem clean_slash (rest : List Char) : clean ('/' :: rest) = '/' :: stripped rest := rfl

theorem takeScheme_of_slash (rest : List Char) : takeScheme ('/' :: rest) = ([], '/' :: rest) := by
  have hcut : cut (· = ':') ('/' :: rest) =
      ('/' :: (cut (· = ':') rest).1, (cut (· = ':') rest).2) := by
    simp [cut]
  simp only [takeScheme, hcut]
  split
  next first more after hfirst hsecond =>
    obtain ⟨rfl, -⟩ := List.cons.inj hfirst
    rfl
  · rfl

end Url

namespace InboundRequest

open Url

variable {request : InboundRequest}

/-- A request with another URL. -/
def withUrl (request : InboundRequest) (url : String) : InboundRequest :=
  { request with url := url }

/-- A URL that is led to one place with a host in front and without: it is blank, or a single slash
comes first in it. -/
def Anchored (url : List Char) : Prop :=
  stripped url = [] ∨ url.head? = some '/' ∧ ¬"//".toList <+: stripped url

theorem resolvePath_withUrl (hpath : request.path = none ∨ request.path = some "") (url : String) :
    (request.withUrl url).resolvePath = routeOf (request.withUrl url).absoluteUrl :=
  resolvePath_eq_routeOf hpath

theorem routeOf_congr {first second : List Char} (hauthority : authority first = authority second)
    (hpath : pathOf (remainder first) = pathOf (remainder second)) :
    routeOf first = routeOf second := by
  have herror (fault : UrlFault) : split first = .error fault ↔ split second = .error fault := by
    rw [split_error_iff, split_error_iff, hauthority]
  cases hfirst : split first with
  | error fault => rw [routeOf, routeOf, hfirst, (herror fault).mp hfirst]
  | ok parts =>
    cases hsecond : split second with
    | error fault => cases hfirst.symm.trans ((herror fault).mpr hsecond)
    | ok others =>
      simp only [routeOf, hfirst, hsecond, Except.map, split_path hfirst, split_path hsecond, hpath]

theorem routeOf_append_question (url query : List Char) :
    routeOf (url ++ '?' :: query) = routeOf url :=
  routeOf_congr (authority_append_question url query) (pathOf_remainder_append_question url query)

theorem path_of_routeOf {url : List Char} {path : String} (h : routeOf url = .ok path) :
    path = pathText (pathOf (remainder url)) :=
  ((routeOf_eq_ok_iff url path).mp h).2

/-- Without an authority there is a path. -/
theorem routeOf_of_no_authority {url : List Char} (h : authority url = []) :
    routeOf url = .ok (pathText (pathOf (remainder url))) := by
  obtain ⟨parts, hparts⟩ : ∃ parts, split url = .ok parts := by
    apply split_isOk
    · rw [h]
      decide
    · rw [h]
      decide
  rw [routeOf, hparts, ← split_path hparts]
  rfl

theorem length_pathText (path : List Char) :
    (pathText path).toList.length = max path.length 1 := by
  cases path <;> simp [pathText]

theorem length_of_routeOf {url path : List Char} (h : routeOf url = .ok (.ofList path)) :
    path.length ≤ max (remainder url).length 1 := by
  have hlength := congrArg (fun path => path.toList.length) (path_of_routeOf h)
  have hpath := length_pathOf_le (remainder url)
  simp only [length_pathText, String.toList_ofList] at hlength
  omega

/-! ## Where a query changes the route -/

/-- Of two slashes the path loses at least one. -/
theorem routeOf_ne_of_slashes {rest : List Char} (h : "//".toList <+: '/' :: stripped rest) :
    routeOf ('/' :: rest) ≠ .ok (.ofList ('/' :: stripped rest)) := by
  intro hroute
  obtain ⟨more, hmore⟩ := h
  have hremainder : remainder ('/' :: rest) = (cut isMark more).2 := by
    rw [remainder, clean_slash, takeScheme_of_slash, ← hmore]
    rfl
  have hcut : (cut isMark more).2.length ≤ more.length := (List.dropWhile_suffix _).length_le
  have hlength := length_of_routeOf hroute
  rw [hremainder, ← hmore] at hlength
  simp only [List.length_append, String.length_toList] at hlength
  have htwo : "//".length = 2 := rfl
  omega

theorem routeOf_of_slash {rest : List Char} (hslashes : ¬"//".toList <+: '/' :: stripped rest)
    (hclear : ∀ c ∈ '/' :: stripped rest, endsPath c = false) :
    routeOf ('/' :: rest) = .ok (.ofList ('/' :: stripped rest)) := by
  have hparts : takeAuthority (takeScheme (clean ('/' :: rest))).2 =
      ([], '/' :: stripped rest) := by
    rw [clean_slash, takeScheme_of_slash, takeAuthority_of_not_slashes hslashes]
  have hauthority : authority ('/' :: rest) = [] := by rw [authority, hparts]
  have hremainder : remainder ('/' :: rest) = '/' :: stripped rest := by rw [remainder, hparts]
  rw [routeOf_of_no_authority hauthority, hremainder, pathOf, cut_of_clear hclear]
  rfl

theorem routeOf_of_blank {url : List Char} (h : stripped url = []) : routeOf url = .ok "/" := by
  have hlength := length_clean_le url
  rw [h] at hlength
  have hclean : clean url = [] := List.length_eq_zero_iff.mp (Nat.le_zero.mp hlength)
  have hauthority : authority url = [] := by
    rw [authority, hclean]
    rfl
  have hremainder : remainder url = [] := by
    rw [remainder, hclean]
    rfl
  rw [routeOf_of_no_authority hauthority, hremainder]
  rfl

/-- No path that is read off a URL is longer than the URL, so none has a slash in addition. -/
theorem blank_of_routeOf {url : List Char}
    (h : routeOf url = .ok (.ofList ('/' :: stripped url))) : stripped url = [] := by
  have hlength := length_of_routeOf h
  have hremainder := length_remainder_le url
  rw [List.length_cons] at hlength
  exact List.length_eq_zero_iff.mp (by omega)

theorem endsPath_stripped_rooted {url : List Char} (hclear : ∀ c ∈ url, endsPath c = false) :
    ∀ c ∈ stripped (rooted url), endsPath c = false := by
  intro c hc
  have hmem : c ∈ rooted url := List.mem_of_mem_filter hc
  unfold rooted at hmem
  split at hmem
  · exact hclear c hmem
  · obtain rfl | hmem := List.mem_cons.mp hmem
    · decide
    · exact hclear c hmem

/-- A URL is led to its own path without a host in front exactly when it is anchored. -/
theorem routeOf_eq_own_iff {url : List Char} (hclear : ∀ c ∈ url, endsPath c = false) :
    routeOf url = .ok (.ofList (pathOf (stripped (rooted url)))) ↔ Anchored url := by
  have hown := endsPath_stripped_rooted hclear
  rw [pathOf, cut_of_clear hown, Anchored]
  by_cases hslash : ∃ rest, url = '/' :: rest
  · obtain ⟨rest, rfl⟩ := hslash
    change routeOf ('/' :: rest) = .ok (.ofList ('/' :: stripped rest)) ↔
      '/' :: stripped rest = [] ∨ _ ∧ ¬"//".toList <+: '/' :: stripped rest
    by_cases hslashes : "//".toList <+: '/' :: stripped rest
    · refine iff_of_false (routeOf_ne_of_slashes hslashes) fun h => ?_
      obtain h | ⟨-, h⟩ := h
      · cases h
      · exact h hslashes
    · exact iff_of_true (routeOf_of_slash hslashes hown) (.inr ⟨rfl, hslashes⟩)
  · have hrooted : rooted url = '/' :: url := by
      unfold rooted
      split
      next rest => exact absurd ⟨rest, rfl⟩ hslash
      · rfl
    have hhead : url.head? ≠ some '/' := by
      intro h
      cases url with
      | nil => cases h
      | cons c rest => exact hslash ⟨rest, by rw [Option.some.inj h]⟩
    rw [hrooted, or_iff_left (fun h => hhead h.1)]
    constructor
    · exact blank_of_routeOf
    · intro h
      have hroot : stripped ('/' :: url) = '/' :: stripped url := rfl
      rw [routeOf_of_blank h, hroot, h]

/-! ## Requests -/

theorem rooted_append_question (url query : List Char) :
    rooted (url ++ '?' :: query) = rooted url ++ '?' :: query := by
  cases url with
  | nil => rfl
  | cons c rest => by_cases h : c = '/' <;> simp [rooted, h]

theorem toList_question (url query : String) :
    (url ++ "?" ++ query).toList = url.toList ++ '?' :: query.toList := by simp

/-- A query that brings no origin of its own stands behind the URL as it is read without it. -/
theorem absoluteUrl_withUrl_question (hpath : request.path = none ∨ request.path = some "")
    {url query : String}
    (h : "://".toList <:+: query.toList → "://".toList <:+: url.toList) :
    (request.withUrl (url ++ "?" ++ query)).absoluteUrl =
      (request.withUrl url).absoluteUrl ++ '?' :: query.toList := by
  have horigin := origin_append_question_iff url.toList query.toList
  rw [← toList_question] at horigin
  by_cases hurl : "://".toList <:+: url.toList
  · have hfirst : "://".toList <:+: (request.withUrl (url ++ "?" ++ query)).url.toList :=
      horigin.mpr (.inl hurl)
    have hsecond : "://".toList <:+: (request.withUrl url).url.toList := hurl
    rw [absoluteUrl_of_origin hfirst, absoluteUrl_of_origin hsecond]
    exact toList_question url query
  · have hboth : ¬"://".toList <:+: (url ++ "?" ++ query).toList :=
      fun hboth => hurl ((horigin.mp hboth).elim id h)
    have hrelative : Relative (request.withUrl url) := ⟨hpath, hurl⟩
    have hrelative' : Relative (request.withUrl (url ++ "?" ++ query)) := ⟨hpath, hboth⟩
    have hrooted : rooted (url ++ "?" ++ query).toList =
        rooted url.toList ++ '?' :: query.toList := by
      rw [toList_question, rooted_append_question]
    have hhost : (request.withUrl (url ++ "?" ++ query)).ownHost =
        (request.withUrl url).ownHost := rfl
    have hown : (request.withUrl (url ++ "?" ++ query)).url = url ++ "?" ++ query := rfl
    rw [absoluteUrl_of_relative hrelative', absoluteUrl_of_relative hrelative, hhost, hown, hrooted]
    simp only [List.append_assoc]
    rfl

/-- What a query behind the URL of a request does to the route. -/
structure QueryEffect (request : InboundRequest) (url query : String) : Prop where
  /-- A query that brings no origin of its own changes neither the path nor the fault. -/
  kept : ("://".toList <:+: query.toList → "://".toList <:+: url.toList) →
    (request.withUrl (url ++ "?" ++ query)).resolvePath = (request.withUrl url).resolvePath
  /-- Any other makes the URL be read by itself. -/
  detached : "://".toList <:+: query.toList → ¬"://".toList <:+: url.toList →
    (request.withUrl (url ++ "?" ++ query)).resolvePath = routeOf url.toList
  /-- At a host that is an authority and nothing more, the route of an anchored URL stays the same,
  and that of any other URL changes. -/
  same_iff : Confined request.ownHost →
    ((request.withUrl (url ++ "?" ++ query)).resolvePath = (request.withUrl url).resolvePath ↔
      ("://".toList <:+: query.toList → "://".toList <:+: url.toList ∨ Anchored url.toList))

/-- The effect of every query behind a URL without a question mark or hash. -/
theorem resolvePath_queryEffect (hpath : request.path = none ∨ request.path = some "")
    {url : String} (hclear : ∀ c ∈ url.toList, endsPath c = false) (query : String) :
    QueryEffect request url query := by
  have hkept (h : "://".toList <:+: query.toList → "://".toList <:+: url.toList) :
      (request.withUrl (url ++ "?" ++ query)).resolvePath =
        (request.withUrl url).resolvePath := by
    rw [resolvePath_withUrl hpath, resolvePath_withUrl hpath,
      absoluteUrl_withUrl_question hpath h, routeOf_append_question]
  have hdetached (hquery : "://".toList <:+: query.toList) :
      (request.withUrl (url ++ "?" ++ query)).resolvePath = routeOf url.toList := by
    have hwhole := toList_question url query
    have horigin : "://".toList <:+: (request.withUrl (url ++ "?" ++ query)).url.toList := by
      change _ <:+: (url ++ "?" ++ query).toList
      rw [hwhole]
      exact (origin_append_question_iff _ _).mpr (.inr hquery)
    rw [resolvePath_withUrl hpath, absoluteUrl_of_origin horigin]
    exact (congrArg routeOf hwhole).trans (routeOf_append_question _ _)
  refine ⟨hkept, fun hquery _ => hdetached hquery, fun hhost => ?_⟩
  by_cases h : "://".toList <:+: query.toList → "://".toList <:+: url.toList
  · exact iff_of_true (hkept h) fun hquery => .inl (h hquery)
  · -- With the query the URL is read by itself, without it behind the host.
    obtain ⟨hquery, hurl⟩ := Classical.not_imp.mp h
    have hrelative : Relative (request.withUrl url) := ⟨hpath, hurl⟩
    have hown : (request.withUrl url).resolvePath =
        .ok (.ofList (pathOf (stripped (rooted url.toList)))) :=
      Confined.resolvePath hhost hrelative
    rw [hdetached hquery, hown, routeOf_eq_own_iff hclear]
    exact ⟨fun h _ => .inr h, fun h => (h hquery).resolve_left hurl⟩

/-- A link in the query takes the slash from the path. -/
theorem resolvePath_queryEffect_link :
    ((make "GET" none "" [] .null).withUrl "health").resolvePath = .ok "/health" ∧
      ((make "GET" none "" [] .null).withUrl ("health" ++ "?" ++ "next=http://a")).resolvePath =
        .ok "health" := by
  have hclear : ∀ c ∈ "health".toList, endsPath c = false := by simp [endsPath]
  have heffect : QueryEffect (make "GET" none "" [] .null) "health" "next=http://a" :=
    resolvePath_queryEffect (.inl rfl) hclear "next=http://a"
  have horigin : ¬"://".toList <:+: "health".toList := by rw [← holdsOrigin_iff]; decide
  have hquery : "://".toList <:+: "next=http://a".toList := by rw [← holdsOrigin_iff]; decide
  refine ⟨?_, ?_⟩
  · decide
  · rw [heffect.detached hquery horigin]
    decide

/-- The query does have a say in the route. -/
theorem resolvePath_question_changes :
    ¬∀ (request : InboundRequest) (url query : String),
      (request.path = none ∨ request.path = some "") → (∀ c ∈ url.toList, endsPath c = false) →
      (request.withUrl (url ++ "?" ++ query)).resolvePath = (request.withUrl url).resolvePath := by
  intro h
  have hsame := h (.make "GET" none "" [] .null) "health" "next=http://a" (.inl rfl)
    (by simp [endsPath])
  exact absurd hsame (by decide)

end InboundRequest

end RegistryGateway
