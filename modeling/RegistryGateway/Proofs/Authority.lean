import RegistryGateway.Platform.Standard
import RegistryGateway.Proofs.Envelope

/-! Requests that get no response.  Where a request names no path, it is read off its URL, and a URL
has no path when its authority is at fault: its brackets are unbalanced or hold no address, or a
character of it stands for a mark.  Nothing else keeps a request from its response. -/

namespace RegistryGateway

namespace Url

/-- The authority of a URL. -/
def authority (text : List Char) : List Char := (takeAuthority (takeScheme (clean text)).2).1

/-- A host is what stands between the first opening bracket and the closing one after it; where the
only closing brackets come before, it is all the rest. -/
structure Bracketed (authority host : List Char) : Prop where
  closed : ']' ∈ authority
  not_mem : ']' ∉ host
  opened : ∃ before rest, '[' ∉ before ∧ authority = before ++ '[' :: rest ∧
    (rest = host ∨ ∃ after, rest = host ++ ']' :: after)

/-- A later kind of address. -/
def FutureAddress (host : List Char) : Prop :=
  ∃ digits rest, digits ≠ [] ∧ (∀ c ∈ digits, isHexDigit c = true) ∧ rest ≠ [] ∧
    host = 'v' :: digits ++ '.' :: rest

/-- The faults of a host in brackets. -/
inductive HostFault (host : List Char) : UrlFault → Prop
  | future : host.head? = some 'v' → ¬FutureAddress host → HostFault host .futureAddress
  | ipv4 : host.head? ≠ some 'v' → isIpv4 host = true → HostFault host .ipv4InBrackets
  | notAddress :
      host.head? ≠ some 'v' → isIpv4 host = false → isIpv6 host = false →
      HostFault host (.notAddress host)

/-- The faults of brackets. -/
inductive BracketFault (authority : List Char) : UrlFault → Prop
  | unbalanced :
      ¬('[' ∈ authority ↔ ']' ∈ authority) → BracketFault authority .unbalancedBrackets
  | host {host : List Char} {fault : UrlFault} :
      Bracketed authority host → HostFault host fault → BracketFault authority fault

/-- The faults of an authority: those of its brackets come first. -/
inductive AuthorityFault (authority : List Char) : UrlFault → Prop
  | brackets {fault : UrlFault} : BracketFault authority fault → AuthorityFault authority fault
  | compatibility {c : Char} :
      (∀ fault, ¬BracketFault authority fault) → c ∈ authority → c.toNat ∈ compatibilityCodes →
      AuthorityFault authority (.compatibility authority)

/-- A text is cut at the first character that meets the test. -/
theorem cut_append {test : Char → Bool} {before after : List Char}
    (hbefore : ∀ c ∈ before, test c = false) (hafter : ∀ c, after.head? = some c → test c = true) :
    cut test (before ++ after) = (before, after) := by
  have hall : ∀ c ∈ before, (!test c) = true := fun c hc => by simp [hbefore c hc]
  simp only [cut, List.takeWhile_append_of_pos hall, List.dropWhile_append_of_pos hall]
  cases after with
  | nil => simp
  | cons c rest => simp [hafter c rfl]

theorem cut_of_clear {test : Char → Bool} {text : List Char} (h : ∀ c ∈ text, test c = false) :
    cut test text = (text, []) := by
  have hcut : cut test (text ++ []) = (text, []) := cut_append h nofun
  rwa [List.append_nil] at hcut

/-- The two halves make up the text, and the first holds no character that meets the test. -/
theorem cut_parts (test : Char → Bool) (text : List Char) :
    (cut test text).1 ++ (cut test text).2 = text ∧ ∀ c ∈ (cut test text).1, test c = false := by
  refine ⟨List.takeWhile_append_dropWhile, fun c hc => ?_⟩
  have hall := List.all_takeWhile (p := (!test ·)) (l := text)
  simpa using List.all_eq_true.mp hall c hc

theorem cutAt_of_not_mem {mark : Char} {text : List Char} (h : mark ∉ text) :
    cutAt mark text = (text, []) := by
  have hbefore : ∀ c ∈ text, decide (c = mark) = false :=
    fun c hc => decide_eq_false fun he => h (he ▸ hc)
  have hcut : cut (· = mark) text = (text, []) := cut_of_clear hbefore
  simp [cutAt, hcut]

theorem cutAt_append {mark : Char} {before : List Char} (h : mark ∉ before) (after : List Char) :
    cutAt mark (before ++ mark :: after) = (before, after) := by
  have hbefore : ∀ c ∈ before, decide (c = mark) = false :=
    fun c hc => decide_eq_false fun he => h (he ▸ hc)
  have hcut : cut (· = mark) (before ++ mark :: after) = (before, mark :: after) :=
    cut_append hbefore (by simp)
  simp [cutAt, hcut]

/-- The host in the brackets is the one that is cut out. -/
theorem bracketed_iff (authority host : List Char) :
    Bracketed authority host ↔ '[' ∈ authority ∧ ']' ∈ authority ∧
      host = (cutAt ']' (cutAt '[' authority).2).1 := by
  constructor
  · rintro ⟨hclosed, hhost, before, rest, hbefore, rfl, hrest⟩
    refine ⟨by simp, hclosed, ?_⟩
    rw [cutAt_append hbefore]
    obtain rfl | ⟨after, rfl⟩ := hrest
    · rw [cutAt_of_not_mem hhost]
    · rw [cutAt_append hhost]
  · rintro ⟨hopen, hclosed, rfl⟩
    obtain ⟨before, rest, rfl, hbefore⟩ := List.eq_append_cons_of_mem hopen
    rw [cutAt_append hbefore]
    by_cases hrest : ']' ∈ rest
    · obtain ⟨host, after, rfl, hhost⟩ := List.eq_append_cons_of_mem hrest
      rw [cutAt_append hhost]
      exact ⟨hclosed, hhost, before, _, hbefore, rfl, .inr ⟨after, rfl⟩⟩
    · rw [cutAt_of_not_mem hrest]
      exact ⟨hclosed, hrest, before, _, hbefore, rfl, .inl rfl⟩

theorem isFutureAddress_iff (host : List Char) :
    isFutureAddress host = true ↔ FutureAddress host := by
  constructor
  · intro h
    unfold isFutureAddress at h
    split at h
    next rest =>
      obtain ⟨happend, hhex⟩ := cut_parts (!isHexDigit ·) rest
      simp only at h
      split at h
      next c more hafter =>
        rw [hafter] at happend
        refine ⟨_, c :: more, by simpa using h, by simpa using hhex, by simp, ?_⟩
        rw [List.cons_append, happend]
      · cases h
    · cases h
  · rintro ⟨digits, rest, hdigits, hhex, hrest, rfl⟩
    obtain ⟨c, more, rfl⟩ := List.exists_cons_of_ne_nil hrest
    have hcut : cut (!isHexDigit ·) (digits ++ '.' :: c :: more) = (digits, '.' :: c :: more) :=
      cut_append (fun d hd => by simp [hhex d hd]) (by rintro _ ⟨⟩; decide)
    simp [isFutureAddress, hcut, hdigits]

theorem hostFault_iff (host : List Char) (fault : UrlFault) :
    hostFault host = some fault ↔ HostFault host fault := by
  constructor
  · intro h
    unfold hostFault at h
    split at h
    next hv =>
      split at h
      · cases h
      next hfuture =>
        cases h
        exact .future hv (by rwa [← isFutureAddress_iff])
    next hv =>
      split at h
      next h4 =>
        cases h
        exact .ipv4 hv h4
      next h4 =>
        split at h
        · cases h
        next h6 =>
          cases h
          exact .notAddress hv (by simpa using h4) (by simpa using h6)
  · intro h
    cases h with
    | future hv hfuture =>
      rw [← isFutureAddress_iff] at hfuture
      simp [hostFault, hv, hfuture]
    | ipv4 hv h4 => simp [hostFault, hv, h4]
    | notAddress hv h4 h6 => simp [hostFault, hv, h4, h6]

theorem bracketFault_iff (authority : List Char) (fault : UrlFault) :
    bracketFault authority = some fault ↔ BracketFault authority fault := by
  by_cases hbalanced : '[' ∈ authority ↔ ']' ∈ authority
  · have hhost : BracketFault authority fault ↔
        ∃ host, Bracketed authority host ∧ HostFault host fault := by
      constructor
      · intro h
        cases h with
        | unbalanced h => exact absurd hbalanced h
        | host hbracketed h => exact ⟨_, hbracketed, h⟩
      · rintro ⟨host, hbracketed, h⟩
        exact .host hbracketed h
    simp only [hhost, bracketed_iff, ← hbalanced, ← hostFault_iff]
    by_cases hopen : '[' ∈ authority
    · simp [bracketFault, hopen, hbalanced.mp hopen]
    · simp [bracketFault, hopen, hbalanced.not.mp hopen]
  · have hfault : bracketFault authority = some .unbalancedBrackets := by
      by_cases hopen : '[' ∈ authority <;> simp_all [bracketFault]
    rw [hfault]
    constructor
    · rintro ⟨⟩
      exact .unbalanced hbalanced
    · intro h
      cases h with
      | unbalanced => rfl
      | host hbracketed =>
        exact absurd (iff_of_true ((bracketed_iff _ _).mp hbracketed).1 hbracketed.closed) hbalanced

theorem compatibilityFault_iff (authority : List Char) (fault : UrlFault) :
    compatibilityFault authority = some fault ↔
      .compatibility authority = fault ∧ ∃ c ∈ authority, c.toNat ∈ compatibilityCodes := by
  simp [compatibilityFault, and_comm]

theorem split_of_bracketFault {text : List Char} {fault : UrlFault}
    (h : bracketFault (authority text) = some fault) : split text = .error fault := by
  simp only [authority] at h
  simp only [split, h]

theorem split_of_compatibilityFault {text : List Char} {fault : UrlFault}
    (hbracket : bracketFault (authority text) = none)
    (h : compatibilityFault (authority text) = some fault) : split text = .error fault := by
  simp only [authority] at h hbracket
  simp only [split, hbracket, h]

theorem split_isOk {text : List Char} (hbracket : bracketFault (authority text) = none)
    (h : compatibilityFault (authority text) = none) : ∃ parts, split text = .ok parts := by
  simp only [authority] at h hbracket
  simp only [split, hbracket, h, Except.ok.injEq, exists_eq']

/-- A URL has no parts exactly when its authority is at fault. -/
theorem split_error_iff (text : List Char) (fault : UrlFault) :
    split text = .error fault ↔ AuthorityFault (authority text) fault := by
  cases hbracket : bracketFault (authority text) with
  | some found =>
    have hfound := (bracketFault_iff _ _).mp hbracket
    rw [split_of_bracketFault hbracket]
    constructor
    · rintro ⟨⟩
      exact .brackets hfound
    · intro h
      cases h with
      | brackets h =>
        cases hbracket.symm.trans ((bracketFault_iff _ _).mpr h)
        rfl
      | compatibility h => exact absurd hfound (h found)
  | none =>
    have hnone (fault : UrlFault) : ¬BracketFault (authority text) fault := by
      rw [← bracketFault_iff, hbracket]
      nofun
    have hcompatibility : AuthorityFault (authority text) fault ↔
        compatibilityFault (authority text) = some fault := by
      rw [compatibilityFault_iff]
      constructor
      · intro h
        cases h with
        | brackets h => exact absurd h (hnone _)
        | compatibility _ hmem hcode => exact ⟨rfl, _, hmem, hcode⟩
      · rintro ⟨rfl, c, hmem, hcode⟩
        exact .compatibility hnone hmem hcode
    rw [hcompatibility]
    cases h : compatibilityFault (authority text) with
    | some found => simp [split_of_compatibilityFault hbracket h]
    | none =>
      obtain ⟨parts, hparts⟩ := split_isOk hbracket h
      simp [hparts]

end Url

/-- A request that is no OPTIONS, names no path and has a URL with a faulty authority. -/
structure Unroutable (request : InboundRequest) (fault : UrlFault) : Prop where
  method : request.method ≠ "OPTIONS"
  path : request.path = none ∨ request.path = some ""
  authority : Url.AuthorityFault (Url.authority request.absoluteUrl) fault

namespace InboundRequest

theorem resolvePath_error_iff (request : InboundRequest) (fault : UrlFault) :
    request.resolvePath = .error fault ↔ (request.path = none ∨ request.path = some "") ∧
      Url.AuthorityFault (Url.authority request.absoluteUrl) fault := by
  have hurl : resolvePath.fromUrl request = .error fault ↔
      Url.AuthorityFault (Url.authority request.absoluteUrl) fault := by
    rw [← Url.split_error_iff, resolvePath.fromUrl]
    cases Url.split request.absoluteUrl <;> simp
  rw [← hurl, resolvePath]
  cases hp : request.path with
  | none => simp
  | some path => by_cases h : path = "" <;> simp [h]

end InboundRequest

namespace Router

section

variable [Platform]

theorem handle_error_iff (r : Router) (request : InboundRequest) (s : Sources) (fault : UrlFault) :
    (r.handle request s).outcome = .error fault ↔ Unroutable request fault := by
  have hunroutable : Unroutable request fault ↔
      request.method ≠ "OPTIONS" ∧ request.resolvePath = .error fault := by
    rw [InboundRequest.resolvePath_error_iff]
    exact ⟨fun h => ⟨h.method, h.path, h.authority⟩, fun h => ⟨h.1, h.2.1, h.2.2⟩⟩
  rw [hunroutable]
  by_cases hm : request.method = "OPTIONS"
  · simp [handle_options r s hm, hm]
  cases hp : request.resolvePath with
  | error found => simp [handle_unresolved r s hm hp, hm]
  | ok path => simp [handle_resolved r s hm hp]

end

end Router

end RegistryGateway
