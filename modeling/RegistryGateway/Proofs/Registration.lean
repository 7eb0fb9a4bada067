import RegistryGateway.Proofs.KeyCheck
import RegistryGateway.Proofs.Dispatch
import Mathlib.Data.List.Induction
import Mathlib.Data.List.Nodup

/-! A run of registrations.  An agent is taken up when its name is neither empty nor taken, and is
refused otherwise, which leaves the registry as it was.  So after any calls in any order the
registry holds the first agent offered under each name that is not empty, in the order in which
these names were first offered; it is asked for these in four ways that agree, and health lists
them. -/

namespace RegistryGateway

namespace AgentRegistry

/-- The registry after a call of `register`. -/
def offer (r : AgentRegistry) (a : Agent) : AgentRegistry :=
  match r.register a with
  | .ok r' => r'
  | .error _ => r

/-- The registry after calls of `register` on an empty one. -/
def offerAll (agents : List Agent) : AgentRegistry := agents.foldl offer empty

/-- The names of some agents that are not empty, each where it is met first. -/
def firstNames (agents : List Agent) : List String :=
  ((agents.map (·.name)).filter (· ≠ "")).eraseDups

variable {r r' : AgentRegistry} {a : Agent} {n : String}

theorem contains_iff (r : AgentRegistry) (n : String) : r.contains n = true ↔ n ∈ r.names := by
  rw [contains, List.contains_iff_mem]

theorem register_eq_ok_iff :
    r.register a = .ok r' ↔ a.name ≠ "" ∧ a.name ∉ r.names ∧ r' = ⟨r.agents ++ [a]⟩ := by
  rw [register]
  split
  next h => simp [h]
  next h =>
    split
    next hc => simp [(contains_iff r a.name).mp hc]
    next hc =>
      have hnew : a.name ∉ r.names := fun hmem => hc ((contains_iff r a.name).mpr hmem)
      simp [h, hnew, eq_comm]

theorem register_isError_iff :
    (∃ e, r.register a = .error e) ↔ a.name = "" ∨ a.name ∈ r.names := by
  constructor
  · rintro ⟨e, he⟩
    by_contra hnew
    rw [not_or] at hnew
    cases he.symm.trans (register_eq_ok_iff.mpr ⟨hnew.1, hnew.2, rfl⟩)
  · intro h
    cases hr : r.register a with
    | error e => exact ⟨e, rfl⟩
    | ok r' =>
      obtain ⟨hname, hnew, -⟩ := register_eq_ok_iff.mp hr
      exact absurd h (not_or.mpr ⟨hname, hnew⟩)

/-! ### One call -/

theorem offer_of_ok (h : r.register a = .ok r') : r.offer a = r' := by
  simp only [offer, h]

theorem offer_of_error {e : RegistrationError} (h : r.register a = .error e) : r.offer a = r := by
  simp only [offer, h]

/-- A call is refused, or puts an agent with a new name at the end. -/
theorem offer_cases (r : AgentRegistry) (a : Agent) :
    (a.name = "" ∨ a.name ∈ r.names) ∧ r.offer a = r ∨
      a.name ≠ "" ∧ a.name ∉ r.names ∧ r.offer a = ⟨r.agents ++ [a]⟩ := by
  cases h : r.register a with
  | error e => exact .inl ⟨register_isError_iff.mp ⟨e, h⟩, offer_of_error h⟩
  | ok r' =>
    obtain ⟨hname, hnew, rfl⟩ := register_eq_ok_iff.mp h
    exact .inr ⟨hname, hnew, offer_of_ok h⟩

theorem mem_names_iff : n ∈ r.names ↔ ∃ a, r.get? n = some a := by
  rw [← Option.isSome_iff_exists, get?, List.find?_isSome, names]
  simp

theorem get?_offer (hn : n ≠ "") (r : AgentRegistry) (a : Agent) :
    (r.offer a).get? n = (r.get? n).or (if a.name = n then some a else none) := by
  obtain ⟨hrefused, hoffer⟩ | ⟨-, -, hoffer⟩ := r.offer_cases a
  · rw [hoffer]
    split
    next hname =>
      subst hname
      obtain ⟨b, hb⟩ := mem_names_iff.mp (hrefused.resolve_left hn)
      rw [hb, Option.some_or]
    · rw [Option.or_none]
  · rw [hoffer, get?, get?, List.find?_append]
    by_cases hname : a.name = n <;> simp [hname]

theorem nodup_offer (h : r.names.Nodup) (a : Agent) : (r.offer a).names.Nodup := by
  obtain ⟨-, hoffer⟩ | ⟨-, hnew, hoffer⟩ := r.offer_cases a
  · rwa [hoffer]
  · rw [hoffer, names, List.map_append, List.nodup_append]
    refine ⟨h, List.nodup_singleton _, ?_⟩
    rintro b hb c hc rfl
    obtain rfl : b = a.name := List.mem_singleton.mp hc
    exact hnew hb

/-! ### A run -/

theorem offerAll_append (agents : List Agent) (a : Agent) :
    offerAll (agents ++ [a]) = (offerAll agents).offer a := by
  rw [offerAll, List.foldl_append]
  rfl

theorem eraseDups_concat (names : List String) (n : String) :
    (names ++ [n]).eraseDups = if n ∈ names then names.eraseDups else names.eraseDups ++ [n] := by
  rw [List.eraseDups_append]
  by_cases h : n ∈ names <;> simp [h, List.removeAll, List.eraseDups_cons]

theorem firstNames_append (agents : List Agent) (a : Agent) :
    firstNames (agents ++ [a]) =
      if a.name = "" ∨ a.name ∈ firstNames agents then firstNames agents
      else firstNames agents ++ [a.name] := by
  rw [firstNames, List.map_append, List.filter_append, firstNames]
  by_cases hname : a.name = ""
  · simp [hname]
  · have hnamed : ([a].map (·.name)).filter (· ≠ "") = [a.name] := by simp [hname]
    rw [hnamed, eraseDups_concat]
    simp only [hname, false_or, List.mem_eraseDups]

theorem names_offerAll (agents : List Agent) : (offerAll agents).names = firstNames agents := by
  -- A call adds at the end, so a run is followed from its last call back.
  induction agents using List.reverseRecOn with
  | nil => rfl
  | append_singleton agents a ih =>
    rw [offerAll_append, firstNames_append, ← ih]
    obtain ⟨hrefused, hoffer⟩ | ⟨hname, hnew, hoffer⟩ := (offerAll agents).offer_cases a
    · rw [hoffer, if_pos hrefused]
    · rw [hoffer, if_neg (not_or.mpr ⟨hname, hnew⟩), names, List.map_append]
      rfl

theorem nodup_offerAll (agents : List Agent) : (offerAll agents).names.Nodup := by
  induction agents using List.reverseRecOn with
  | nil => exact List.nodup_nil
  | append_singleton agents a ih =>
    rw [offerAll_append]
    exact nodup_offer ih a

theorem get?_offerAll (hn : n ≠ "") (agents : List Agent) :
    (offerAll agents).get? n = agents.find? (·.name = n) := by
  induction agents using List.reverseRecOn with
  | nil => rfl
  | append_singleton agents a ih =>
    rw [offerAll_append, get?_offer hn, ih, List.find?_append]
    by_cases hname : a.name = n <;> simp [hname]

end AgentRegistry

variable [Platform]

/-- Health is asked for at two paths, with any method but OPTIONS. -/
theorem Router.health_answers (router : Router) {request : InboundRequest} {path : String}
    (s : Sources) (hm : request.method ≠ "OPTIONS") (hp : request.resolvePath = .ok path)
    (hpath : path = "/health" ∨ path = "/") :
    ∃ response, (router.handle request s).outcome = .ok response ∧
      Answers response 200
        [("status", .str "healthy"), ("agents", .strings router.registry.names)] := by
  have hexit := router.dispatched_exit request path s
  rw [handle_resolved router s hm hp]
  refine ⟨_, rfl, (hexit.decision_of_route ⟨rfl, _, _, hexit.body _⟩).1.mpr ?_⟩
  exact (Route.ofPath_eq_health_iff path).mpr hpath

namespace AgentRegistry

/-- What a registry holds after some calls of `register` on an empty one. -/
structure Holds (agents : List Agent) (r : AgentRegistry) : Prop where
  names : r.names = firstNames agents
  nodup : r.names.Nodup
  contains : ∀ n, r.contains n = true ↔ n ∈ r.names
  get? : ∀ n, r.get? n ≠ none ↔ n ∈ r.names
  require : ∀ n, r.require n ≠ .error (.unknownAgent n) ↔ n ∈ r.names
  /-- Under each name is the first agent that was offered under it. -/
  first : ∀ n ∈ r.names, ∃ a, IsFirst (·.name = n) agents a ∧ r.get? n = some a ∧
    r.require n = .ok a ∧ a.layer = "REGISTRY_" ++ upper n
  refused : ∀ a, (∃ e, r.register a = .error e) ↔ a.name = "" ∨ a.name ∈ r.names
  /-- A call that fails leaves the registry as it was. -/
  unchanged : ∀ a e, r.register a = .error e → offerAll (agents ++ [a]) = r
  taken : ∀ a r', r.register a = .ok r' →
    offerAll (agents ++ [a]) = r' ∧ r'.agents = r.agents ++ [a]
  health : ∀ (router : Router) (request : InboundRequest) (path : String) (s : Sources),
    router.registry = r → request.method ≠ "OPTIONS" → request.resolvePath = .ok path →
    path = "/health" ∨ path = "/" →
    ∃ response, (router.handle request s).outcome = .ok response ∧
      Answers response 200 [("status", .str "healthy"), ("agents", .strings r.names)]

/-- After any calls of `register`, with empty and repeated names among them, the registry holds the
first agent offered under each name. -/
theorem offerAll_holds (agents : List Agent) : Holds agents (offerAll agents) where
  names := names_offerAll agents
  nodup := nodup_offerAll agents
  contains := contains_iff _
  get? n := by rw [mem_names_iff, Option.ne_none_iff_exists']
  require n := by
    rw [mem_names_iff, require]
    cases (offerAll agents).get? n <;> simp
  first n hn := by
    have hne : n ≠ "" := by
      rintro rfl
      rw [names_offerAll, firstNames, List.mem_eraseDups] at hn
      simp at hn
    obtain ⟨a, ha⟩ := mem_names_iff.mp hn
    have hfind := (get?_offerAll hne agents).symm.trans ha
    have hfirst := (find?_eq_some_iff_isFirst _ agents a).mp hfind
    refine ⟨a, by simpa using hfirst, ha, by rw [require, ha], ?_⟩
    rw [Agent.layer, Contract.layerName, name_of_get? ha]
  refused _ := register_isError_iff
  unchanged a e he := by rw [offerAll_append, offer_of_error he]
  taken a r' hr := by
    obtain ⟨-, -, hr'⟩ := register_eq_ok_iff.mp hr
    rw [offerAll_append, offer_of_ok hr, hr']
    exact ⟨rfl, rfl⟩
  health router request path s hregistry hm hp hpath := by
    rw [← hregistry]
    exact router.health_answers s hm hp hpath

/-- Neither an agent without a name nor a second one of a name is listed. -/
example : names (offerAll
    [.custom "A" "b" .echo, .custom "A" "" .echo, .index, .custom "B" "b" (.answer .null)]) =
    ["b", "index"] := by decide

end AgentRegistry

end RegistryGateway
