import RegistryGateway.Proofs.Host

/-! The path that a request without an explicit path is led to.  A URL without an origin is its own
path behind a slash; of a URL with an origin it is what follows the host.  Tabs and line breaks are
left out, and the first question mark or hash ends the path, so a path is rooted and plain. -/

namespace RegistryGateway

namespace Url

/-- ASCII text without the marks that end an authority and without brackets. -/
structure PlainHost (host : List Char) : Prop where
  ascii : ∀ c ∈ host, c.toNat < 128
  unmarked : ∀ c ∈ host, isMark c = false
  unbracketed : '[' ∉ host ∧ ']' ∉ host

def isPlainHostChar (c : Char) : Bool := c.toNat < 128 && !isMark c && c ≠ '[' && c ≠ ']'

theorem plainHost_iff (host : List Char) :
    PlainHost host ↔ host.all isPlainHostChar = true := by
  rw [List.all_eq_true]
  constructor
  · intro h c hc
    have hopen : c ≠ '[' := fun he => h.unbracketed.1 (he ▸ hc)
    have hclose : c ≠ ']' := fun he => h.unbracketed.2 (he ▸ hc)
    simp [isPlainHostChar, h.ascii c hc, h.unmarked c hc, hopen, hclose]
  · intro h
    simp only [isPlainHostChar, Bool.and_eq_true, Bool.not_eq_true', decide_eq_true_eq] at h
    exact ⟨fun c hc => (h c hc).1.1.1, fun c hc => (h c hc).1.1.2,
      fun hmem => (h _ hmem).1.2 rfl, fun hmem => (h _ hmem).2 rfl⟩

instance (host : List Char) : Decidable (PlainHost host) :=
  decidable_of_iff _ (plainHost_iff host).symm

theorem PlainHost.confined {host : List Char} (h : PlainHost host) :
    InboundRequest.Confined host :=
  InboundRequest.confined_of_ascii h.unmarked h.unbracketed.1 h.unbracketed.2 h.ascii

/-- A path is cut before a question mark or hash, and tabs and line breaks are no part of it. -/
theorem pathOf_stripped_plain (text : List Char) :
    ∀ c ∈ pathOf (stripped text), endsPath c = false ∧ isDropped c = false := by
  intro c hc
  refine ⟨(cut_parts endsPath (stripped text)).2 c hc, ?_⟩
  have hkept : c ∈ stripped text := (List.takeWhile_sublist _).mem hc
  simpa using List.of_mem_filter hkept

/-- What follows an authority is empty or starts with a mark, whether or not anything is left out of
it. -/
theorem isMark_head?_stripped {rest : List Char} (h : ∀ c, rest.head? = some c → isMark c = true) :
    ∀ c, (stripped rest).head? = some c → isMark c = true := by
  cases rest with
  | nil => nofun
  | cons first more =>
    have hfirst := h first rfl
    intro c hc
    rw [stripped, List.filter_cons_of_pos (by simp [isDropped_of_isMark hfirst])] at hc
    obtain rfl := Option.some.inj hc
    exact hfirst

theorem cut_stripped_append {host rest : List Char} (hhost : ∀ c ∈ host, isMark c = false)
    (hrest : ∀ c, rest.head? = some c → isMark c = true) :
    cut isMark (stripped (host ++ rest)) = (stripped host, stripped rest) := by
  have happend : stripped (host ++ rest) = stripped host ++ stripped rest := List.filter_append ..
  rw [happend]
  exact cut_append ((isMark_stripped_iff host).mpr hhost) (isMark_head?_stripped hrest)

end Url

namespace InboundRequest

open Url

variable {request : InboundRequest}

/-- A request is led to a path, which starts with a slash and is free of marks that end a path, of
tabs and of line breaks. -/
structure LedTo (request : InboundRequest) (path : String) : Prop where
  resolved : request.resolvePath = .ok path
  rooted : path.toList.head? = some '/'
  plain : ∀ c ∈ path.toList, endsPath c = false ∧ isDropped c = false

/-- The path of a URL that a host stands before starts with a slash. -/
theorem head?_pathText {rest : List Char} (hrest : ∀ c, rest.head? = some c → isMark c = true) :
    (pathText (pathOf (stripped rest))).toList.head? = some '/' := by
  cases hpath : pathOf (stripped rest) with
  | nil => rfl
  | cons c more =>
    have hhead : (stripped rest).head? = some c := by
      have hparts := (cut_parts endsPath (stripped rest)).1
      rw [show (cut endsPath (stripped rest)).1 = c :: more from hpath] at hparts
      rw [← hparts]
      rfl
    have hmark := isMark_head?_stripped hrest c hhead
    have hends := (pathOf_stripped_plain rest c (by simp [hpath])).1
    simp only [isMark, endsPath, Bool.or_eq_true, Bool.or_eq_false_iff, decide_eq_true_eq,
      decide_eq_false_iff_not] at hmark hends
    obtain (rfl | rfl) | rfl := hmark
    · simp [pathText]
    · exact absurd rfl hends.1
    · exact absurd rfl hends.2

theorem plain_pathText (text : List Char) :
    ∀ c ∈ (pathText (pathOf (stripped text))).toList, endsPath c = false ∧ isDropped c = false := by
  rw [pathText]
  split
  · intro c hc
    obtain rfl : c = '/' := by simpa using hc
    decide
  · rw [String.toList_ofList]
    exact pathOf_stripped_plain text

/-- A URL without an origin is its own path at every host that is an authority and nothing more. -/
theorem Relative.ledTo (h : Relative request) (hhost : Confined request.ownHost) :
    LedTo request request.ownPath := by
  obtain ⟨rest, hrest⟩ := stripped_rooted request.url.toList
  refine ⟨hhost.resolvePath h, ?_, ?_⟩
  · rw [ownPath, String.toList_ofList, hrest]
    rfl
  · rw [← ownPath_eq]
    exact plain_pathText _

/-- Of a URL with an origin, the path is what follows the host. -/
theorem ledTo_of_origin (hpath : request.path = none ∨ request.path = some "")
    {scheme host rest : List Char} (hscheme : IsScheme scheme) (hhost : Confined host)
    (hrest : ∀ c, rest.head? = some c → isMark c = true)
    (hurl : request.url.toList = scheme ++ "://".toList ++ host ++ rest) :
    LedTo request (pathText (pathOf (stripped rest))) := by
  have horigin : "://".toList <:+: request.url.toList :=
    ⟨scheme, host ++ rest, by rw [hurl, List.append_assoc _ host]⟩
  have habsolute : request.absoluteUrl = scheme ++ "://".toList ++ (host ++ rest) := by
    rw [absoluteUrl_of_origin horigin, hurl, List.append_assoc _ host]
  have hcut := cut_stripped_append hhost.unmarked hrest
  refine ⟨(resolvePath_eq_ok_iff hpath _).mpr ⟨fun fault => ?_, ?_⟩, head?_pathText hrest,
    plain_pathText rest⟩
  · rw [habsolute, authority_absolute hscheme, hcut]
    exact hhost.sound fault
  · rw [habsolute, remainder_absolute hscheme, hcut]

theorem confined_ownHost (h : ∀ value, request.headers.get? "host" = some value →
    PlainHost value.toList) : Confined request.ownHost := by
  have hlocal : PlainHost "localhost".toList := by decide
  rw [ownHost, hostText]
  cases hheader : request.headers.get? "host" with
  | none => exact hlocal.confined
  | some value =>
    rw [orElse]
    split
    · exact hlocal.confined
    · exact (h value hheader).confined

/-- Where the URL of a request leads it: to the URL itself, with a slash in front and without tabs
and line breaks, before its first question mark or hash; behind an origin, to what follows the host,
in the same way. -/
theorem ledTo_path_of_url (hpath : request.path = none ∨ request.path = some "")
    (hhost : ∀ value, request.headers.get? "host" = some value → PlainHost value.toList) :
    (¬"://".toList <:+: request.url.toList →
      LedTo request (.ofList (pathOf (stripped (rooted request.url.toList))))) ∧
    ∀ scheme host rest, IsScheme scheme → PlainHost host →
      (∀ c, rest.head? = some c → isMark c = true) →
      request.url.toList = scheme ++ "://".toList ++ host ++ rest →
      LedTo request (pathText (pathOf (stripped rest))) := by
  constructor
  · intro horigin
    have hrelative : Relative request := ⟨hpath, horigin⟩
    exact hrelative.ledTo (confined_ownHost hhost)
  · intro scheme host rest hscheme hplain hrest hurl
    exact ledTo_of_origin hpath hscheme hplain.confined hrest hurl

/-- A relative URL and an absolute one, both with characters that are left out and a mark that ends
the path. -/
theorem ledTo_path_of_url_marked :
    LedTo (.make "GET" none "heal\tth#?x" [("Host", "registry.test:80")] .null) "/health" ∧
    LedTo (.make "GET" none "https://u@registry.test/hea\nlth?q=://" [] .null) "/health" := by
  have hhost : ∀ value,
      (make "GET" none "heal\tth#?x" [("Host", "registry.test:80")] .null).headers.get? "host" =
        some value → PlainHost value.toList := by
    have hheader :
        (make "GET" none "heal\tth#?x" [("Host", "registry.test:80")] .null).headers.get? "host" =
          some "registry.test:80" := by decide
    rw [hheader]
    rintro value ⟨⟩
    decide
  have hscheme : IsScheme "https".toList :=
    ⟨⟨_, _, rfl, by decide⟩, List.all_eq_true.mp (by decide)⟩
  constructor
  · exact (ledTo_path_of_url (.inl rfl) hhost).1 (by rw [← holdsOrigin_iff]; decide)
  · exact (ledTo_path_of_url (.inl rfl) (by rintro value ⟨⟩)).2 "https".toList
      "u@registry.test".toList "/hea\nlth?q=://".toList hscheme (by decide)
      (by rintro c ⟨⟩; rfl) rfl

end InboundRequest

end RegistryGateway
