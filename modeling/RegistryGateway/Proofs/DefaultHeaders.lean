import RegistryGateway.Proofs.Addressing
import RegistryGateway.Proofs.ContextHeaders

/-! The headers that a client sends by default: what it accepts, and its bearer token.  A header
that is configured takes the place of a default that is spelled the same.  One in another spelling
is sent after it, so that a request can bear two authorizations.  The name and the password of the
base URL take the place of both. -/

namespace RegistryGateway

theorem Assoc.contains_filter {α : Type} {p : String → Bool} {key : String} (h : p key = true)
    (m : Assoc α) : Assoc.contains (m.filter fun e => p e.1) key = Assoc.contains m key := by
  rw [Bool.eq_iff_iff, contains_iff, contains_iff, get?_filter, if_pos h]

namespace Client

namespace Headers

theorem sameName_self (name : String) : sameName name name = true := by simp [sameName]

theorem sameName_of_sameName {first second name : String} (hfirst : sameName first name = true)
    (hsecond : sameName second name = true) : sameName first second = true := by
  simp only [sameName, decide_eq_true_eq] at hfirst hsecond ⊢
  rw [hfirst, hsecond]

theorem values_set (hs : Headers) (name value : String) :
    (hs.set name value).values name = [value] := by
  have hremoved (rest : Headers) : values (rest.filter fun h => !sameName h.1 name) name = [] := by
    simp [values, List.filter_filter]
  induction hs with
  | nil => simp [set, sameName_self, values]
  | cons h rest ih =>
    rw [set]
    split
    · rw [values_cons, if_pos (sameName_self name), hremoved]
    next hother => rw [values_cons, if_neg hother, ih]

/-- No two names are the same but for case. -/
def Distinct (hs : Headers) : Prop := (hs.map fun h => fold h.1).Nodup

theorem filter_of_distinct {hs : Headers} (h : hs.Distinct) (name : String) :
    (hs.filter fun e => sameName e.1 name) = [] ∨
      ∃ e, (hs.filter fun e => sameName e.1 name) = [e] := by
  induction hs with
  | nil => exact .inl rfl
  | cons e rest ih =>
    obtain ⟨hfresh, hrest⟩ := List.nodup_cons.mp h
    cases hsame : sameName e.1 name with
    | false =>
      rw [List.filter_cons_of_neg (by simp [hsame])]
      exact ih hrest
    | true =>
      have hnone : (rest.filter fun e => sameName e.1 name) = [] := by
        refine List.filter_eq_nil_iff.mpr fun other hother hsame' => hfresh ?_
        have hfold := sameName_of_sameName hsame' hsame
        exact List.mem_map.mpr ⟨other, hother, of_decide_eq_true hfold⟩
      refine .inr ⟨e, ?_⟩
      rw [List.filter_cons, if_pos hsame, hnone]

/-- What is configured under a name, in any spelling, is sent in place of the default. -/
structure Overrides (configured : Headers) (name : String) (default sent : List String) : Prop where
  present : ∀ e ∈ configured, sameName e.1 name = true → sent = [e.2]
  absent : contains configured name = false → sent = default

/-- A name that has a default is configured, and only in another spelling. -/
def Respelled (configured : Headers) (name : String) (default : List String) : Prop :=
  default ≠ [] ∧ contains configured name = true ∧ Assoc.contains configured name = false

/-- What becomes of the default of a name. -/
structure Merges (configured : Headers) (name : String) (default sent : List String) : Prop where
  overrides_iff : Overrides configured name default sent ↔ ¬Respelled configured name default
  doubled : Respelled configured name default →
    ∃ e ∈ configured, sameName e.1 name = true ∧ sent = default ++ [e.2]

section

variable {given configured : Headers} {name : String}

theorem contains_of_mem {e : String × String} (he : e ∈ configured)
    (hsame : sameName e.1 name = true) : contains configured name = true :=
  List.any_eq_true.mpr ⟨e, he, hsame⟩

theorem merges_of_not_contains (h : contains configured name = false) (default : List String) :
    Merges configured name default default := by
  have hrespelled : ¬Respelled configured name default := by simp [Respelled, h]
  refine ⟨iff_of_true ⟨fun e he hsame => ?_, fun _ => rfl⟩ hrespelled, (absurd · hrespelled)⟩
  have hcontains := contains_of_mem he hsame
  rw [h] at hcontains
  cases hcontains

section

variable {e : String × String} (h : (configured.filter fun h => sameName h.1 name) = [e])
include h

theorem mem_of_filter : e ∈ configured ∧ sameName e.1 name = true :=
  List.mem_filter.mp (h ▸ List.mem_singleton_self e)

theorem overrides_iff_of_filter (default sent : List String) :
    Overrides configured name default sent ↔ sent = [e.2] := by
  obtain ⟨he, hsame⟩ := mem_of_filter h
  refine ⟨fun hoverrides => hoverrides.present e he hsame, fun hsent => ⟨?_, fun hnone => ?_⟩⟩
  · intro other hother hsame'
    have hmem : other ∈ configured.filter fun h => sameName h.1 name :=
      List.mem_filter.mpr ⟨hother, hsame'⟩
    rw [h] at hmem
    rw [hsent, List.mem_singleton.mp hmem]
  · rw [contains_of_mem he hsame] at hnone
    cases hnone

theorem respelled_iff_of_filter (default : List String) :
    Respelled configured name default ↔ default ≠ [] ∧ e.1 ≠ name := by
  obtain ⟨he, hsame⟩ := mem_of_filter h
  have hexact : Assoc.contains configured name = decide (e.1 = name) := by
    rw [← Assoc.contains_filter (p := (sameName · name)) (sameName_self name), h]
    simp [Assoc.contains]
  simp [Respelled, contains_of_mem he hsame, hexact]

theorem merges_of_filter (default : List String) :
    Merges configured name default ((if e.1 = name then [] else default) ++ [e.2]) := by
  obtain ⟨he, hsame⟩ := mem_of_filter h
  have hrespelled := respelled_iff_of_filter h default
  constructor
  · rw [overrides_iff_of_filter h, hrespelled]
    by_cases hspelling : e.1 = name <;> simp [hspelling]
  · intro hdouble
    exact ⟨e, he, hsame, by rw [if_neg (hrespelled.mp hdouble).2]⟩

end

/-- Names are compared as they are spelled when headers are put into given ones. -/
theorem merges_update (hdistinct : configured.Distinct)
    (hgiven : (given.filter fun e => sameName e.1 name) = [] ∨
      ∃ v, (given.filter fun e => sameName e.1 name) = [(name, v)]) :
    Merges configured name (given.values name) (values (Assoc.update given configured) name) := by
  -- Under this name there is one entry at most on either side, and the two are put together.
  have hfilter := Assoc.filter_update (sameName · name) given configured
  obtain hnone | ⟨e, he⟩ := filter_of_distinct hdistinct name
  · have hcontains : contains configured name = false := by
      simpa [contains] using hnone
    have hvalues : values (Assoc.update given configured) name = given.values name := by
      rw [hnone] at hfilter
      exact congrArg (List.map (·.2)) hfilter
    rw [hvalues]
    exact merges_of_not_contains hcontains _
  · have hvalues : values (Assoc.update given configured) name =
        (if e.1 = name then [] else given.values name) ++ [e.2] := by
      rw [he] at hfilter
      rw [values, hfilter, values]
      obtain hgiven | ⟨v, hgiven⟩ := hgiven
      · simp [hgiven, Assoc.update, Assoc.put]
      · by_cases hspelling : e.1 = name
        · simp [hgiven, Assoc.update, Assoc.put, hspelling]
        · simp [hgiven, Assoc.update, Assoc.put, hspelling, Ne.symm hspelling]
    rw [hvalues]
    exact merges_of_filter he _

end

end Headers

namespace Config

theorem merges_accept {config : Config} (h : Headers.Distinct config.headers) :
    Headers.Merges config.headers "Accept" ["application/json"]
      (config.defaults.values "Accept") := by
  have hself := Headers.sameName_self "Accept"
  have hother : Headers.sameName "Authorization" "Accept" = false := by decide
  have hgiven : (("Accept", "application/json") :: config.authorization).filter
      (fun e => Headers.sameName e.1 "Accept") = [("Accept", "application/json")] := by
    rw [List.filter_cons, if_pos hself, config.filter_authorization hother]
  have hmerges := Headers.merges_update h (.inr ⟨_, hgiven⟩)
  rwa [Headers.values, hgiven] at hmerges

theorem merges_authorization {config : Config} (h : Headers.Distinct config.headers) :
    Headers.Merges config.headers "Authorization" (config.authorization.map (·.2))
      (config.defaults.values "Authorization") := by
  have hself := Headers.sameName_self "Authorization"
  have hother : Headers.sameName "Accept" "Authorization" = false := by decide
  have hfilter : (("Accept", "application/json") :: config.authorization).filter
      (fun e => Headers.sameName e.1 "Authorization") = config.authorization := by
    rw [List.filter_cons, if_neg (by simp [hother]), authorization]
    split
    · split <;> simp [hself]
    · rfl
  have hgiven : config.authorization = [] ∨
      ∃ v, config.authorization = [("Authorization", v)] := by
    rw [authorization]
    split
    next token _ =>
      split
      · exact .inl rfl
      · exact .inr ⟨_, rfl⟩
    · exact .inl rfl
  rw [← hfilter] at hgiven
  have hmerges := Headers.merges_update h hgiven
  rwa [Headers.values, hfilter] at hmerges

end Config

namespace Session

open Url (Target)

/-- The authorization by a name and a password. -/
def basic (credentials : List Char × List Char) : String :=
  "Basic " ++ String.ofList (Base64.encode (Utf8.encode
    (credentials.1 ++ ':' :: credentials.2)))

theorem withCredentials_of_none {t : Target} (h : t.credentials = ([], [])) (hs : Headers) :
    withCredentials t hs = hs := by
  simp [withCredentials, h]

theorem values_withCredentials {t : Target} (h : t.credentials ≠ ([], [])) (hs : Headers) :
    (withCredentials t hs).values "Authorization" = [basic t.credentials] := by
  have hsome : ¬(t.credentials.1.isEmpty && t.credentials.2.isEmpty) = true := by
    intro hempty
    simp only [Bool.and_eq_true, List.isEmpty_iff] at hempty
    exact h (Prod.ext hempty.1 hempty.2)
  simp only [withCredentials, if_neg hsome]
  exact Headers.values_set _ _ _

/-- Below the credentials, a request has the default headers of its client. -/
theorem exists_headers {s : Session} {op : Operation} {request : Request}
    (h : s.request op = .ok request) :
    ∃ hs, (∀ name, isContextual name = false →
        request.headers.values name = (withCredentials request.target hs).values name) ∧
      ∀ name, Headers.sameName "Content-Type" name = false →
        Headers.sameName "Host" name = false → hs.values name = s.config.defaults.values name := by
  obtain ⟨t, contentType, body, -, -, -, -, rfl⟩ := (request_eq_ok_iff s op request).mp h
  obtain ⟨hs, hown, hvalues⟩ := s.exists_ownHeaders t contentType
  refine ⟨hs, fun name hname => ?_, hvalues⟩
  have hcontext : s.contextHeaders.contains name = false := by
    rw [contextHeaders]
    split
    next c _ => rw [c.contains_headers, hname]
    · rfl
  rw [Headers.values_update, hcontext, hown]
  rfl

/-- What a request has under the names that have a default. -/
structure Defaulted (config : Config) (request : Request) : Prop where
  accept : Headers.Merges config.headers "Accept" ["application/json"]
    (request.headers.values "Accept")
  bearer : request.target.credentials = ([], []) →
    Headers.Merges config.headers "Authorization" (config.authorization.map (·.2))
      (request.headers.values "Authorization")
  basic : request.target.credentials ≠ ([], []) →
    request.headers.values "Authorization" = [Session.basic request.target.credentials]

theorem request_defaulted {s : Session} (hdistinct : Headers.Distinct s.config.headers)
    {op : Operation} {request : Request} (h : s.request op = .ok request) :
    Defaulted s.config request := by
  obtain ⟨hs, hrequest, hdefaults⟩ := exists_headers h
  have haccept : request.headers.values "Accept" = s.config.defaults.values "Accept" := by
    rw [hrequest "Accept" (by decide), values_withCredentials_of_ne _ hs (by decide),
      hdefaults "Accept" (by decide) (by decide)]
  refine ⟨?_, fun hnone => ?_, fun hsome => ?_⟩
  · rw [haccept]
    exact Config.merges_accept hdistinct
  · rw [hrequest "Authorization" (by decide), withCredentials_of_none hnone,
      hdefaults "Authorization" (by decide) (by decide)]
    exact Config.merges_authorization hdistinct
  · rw [hrequest "Authorization" (by decide)]
    exact values_withCredentials hsome hs

/-- Of a client whose configured names are distinct, every request has the configured value of a
name in place of its default, unless that name is spelled in another way there. -/
theorem sent_defaulted [Platform] {config : Config} (hdistinct : Headers.Distinct config.headers)
    {boundary : List Char} {s : Session} (hstart : start config boundary = .ok s) {op : Operation}
    {request : Request} (hsent : s.Sent op request) : Defaulted config request := by
  obtain ⟨base, -, -, rfl⟩ := (start_eq_ok_iff config boundary s).mp hstart
  obtain ⟨steps, exchange, hmem⟩ := hsent
  have hconfig := after_config ⟨config, base, boundary, config.context, none, false⟩ steps
  rw [← show _ = config from hconfig] at hdistinct ⊢
  exact request_defaulted hdistinct ((mem_requests_iff _ op exchange request).mp hmem)

/-- A configuration that has a token and an authorization in a spelling of its own. -/
def respelledConfig : Config :=
  { configAt "http://registry.test" with
    token := some "secret", headers := [("authorization", "Basic z")] }

theorem distinct_respelledConfig : Headers.Distinct respelledConfig.headers := by
  rw [Headers.Distinct]
  decide +kernel

theorem respelled_authorization :
    Headers.Respelled respelledConfig.headers "Authorization"
      (respelledConfig.authorization.map (·.2)) := by
  rw [Headers.Respelled]
  decide +kernel

theorem request_respelledConfig :
    ∃ s request, start respelledConfig [] = .ok s ∧ s.request .health = .ok request ∧
      request.target.credentials = ([], []) := by
  have hfirst : firstTarget? respelledConfig .health = some (onHost "", onHost "/health") := by
    decide +kernel
  obtain ⟨s, request, hs, -, hrequest, htarget⟩ := request_of_firstTarget? hfirst
  refine ⟨s, request, hs, hrequest, ?_⟩
  rw [htarget]
  decide

open scoped Platform in
/-- The bearer token is sent beside the authorization that is configured. -/
theorem sent_defaulted_respelled :
    ∃ s request, start respelledConfig [] = .ok s ∧ s.Sent .health request ∧
      request.headers.values "Authorization" = ["Bearer secret", "Basic z"] := by
  obtain ⟨s, request, hs, hrequest, hcredentials⟩ := request_respelledConfig
  have hsent : s.Sent .health request := .of_request hrequest
  have hbearer := (sent_defaulted distinct_respelledConfig hs hsent).bearer hcredentials
  obtain ⟨e, he, -, hvalues⟩ := hbearer.doubled respelled_authorization
  obtain rfl : e = ("authorization", "Basic z") := by simpa [respelledConfig] using he
  exact ⟨s, request, hs, hsent, hvalues⟩

open scoped Platform in
/-- What is configured does not override the bearer token whatever its spelling. -/
theorem not_overrides_authorization :
    ¬∀ (config : Config) (boundary : List Char) (s : Session) (op : Operation) (request : Request),
      Headers.Distinct config.headers → start config boundary = .ok s → s.Sent op request →
        Headers.Overrides config.headers "Authorization" (config.authorization.map (·.2))
          (request.headers.values "Authorization") := by
  intro hall
  obtain ⟨s, request, hs, hrequest, hcredentials⟩ := request_respelledConfig
  have hoverrides := hall _ _ s _ request distinct_respelledConfig hs (.of_request hrequest)
  obtain ⟨base, -, -, rfl⟩ := (start_eq_ok_iff _ _ s).mp hs
  have hbearer := (request_defaulted distinct_respelledConfig hrequest).bearer hcredentials
  exact hbearer.overrides_iff.mp hoverrides respelled_authorization

end Session

end Client

end RegistryGateway
