import RegistryGateway.Proofs.Strictness

/-! The keys of a body.  Structural validation says what is wrong with the keys of a body: the first
required key that is missing, in the order of the schema, and only when none is, the first key that
the schema does not know, in the order of the body.  It looks at nothing but the keys, and their
order decides no more than which unknown key is named. -/

namespace RegistryGateway

/-- An item is the first of a list with a property. -/
def IsFirst {α : Type} (p : α → Prop) (items : List α) (a : α) : Prop :=
  ∃ before after, items = before ++ a :: after ∧ (∀ b ∈ before, ¬p b) ∧ p a

theorem find?_eq_some_iff_isFirst {α : Type} (test : α → Bool) (items : List α) (a : α) :
    items.find? test = some a ↔ IsFirst (test · = true) items a := by
  rw [List.find?_eq_some_iff_append]
  constructor
  · rintro ⟨ha, before, after, hitems, hbefore⟩
    exact ⟨before, after, hitems, fun b hb => by simpa using hbefore b hb, ha⟩
  · rintro ⟨before, after, hitems, hbefore, ha⟩
    exact ⟨ha, before, after, hitems, fun b hb => by simpa using hbefore b hb⟩

namespace Contract

/-- What is said of a body where some keys are required and some are known. -/
inductive KeyVerdict (required known : List String) : Json → Option String → Prop
  | passed {members : List (String × Json)} :
      required ⊆ Assoc.keys members → Assoc.keys members ⊆ known →
      KeyVerdict required known (.obj members) none
  | notObject {body : Json} :
      (∀ members, body ≠ .obj members) →
      KeyVerdict required known body (some "Request body must be a JSON object")
  | missing {members : List (String × Json)} {name : String} :
      IsFirst (· ∉ Assoc.keys members) required name →
      KeyVerdict required known (.obj members) (some ("Missing required field: " ++ name))
  | unknown {members : List (String × Json)} {key : String} :
      required ⊆ Assoc.keys members → IsFirst (· ∉ known) (Assoc.keys members) key →
      KeyVerdict required known (.obj members) (some ("Unknown field: " ++ key))

/-- What is said of a body for an agent.  That an agent has no contract is found out with objects
only. -/
inductive Verdict (agent : String) : Json → Except UnknownContract (Option String) → Prop
  | listed {c : Contract} {required : List String} {properties : List (String × Schema)}
      {body : Json} {problem : Option String} :
      table.get? agent = some c →
      c.request = [.type .object, .required required, .properties properties,
        .additionalProperties false] →
      KeyVerdict required (properties.map (·.1)) body problem → Verdict agent body (.ok problem)
  | unlisted {members : List (String × Json)} :
      table.get? agent = none → Verdict agent (.obj members) (.error ⟨agent⟩)
  | notObject {body : Json} :
      table.get? agent = none → (∀ members, body ≠ .obj members) →
      Verdict agent body (.ok (some "Request body must be a JSON object"))

/-- The structural problem of a body as it is reported. -/
def structuralProblem (agent : String) (body : Json) : Except UnknownContract (Option String) :=
  (structuralRejection agent body).map (Option.map Rejection.message)

/-- The first item that is not allowed. -/
def firstOutside? (allowed items : List String) : Option String :=
  items.find? fun item => !allowed.contains item

section

variable {allowed allowed' items : List String}

theorem firstOutside?_eq_some_iff (item : String) :
    firstOutside? allowed items = some item ↔ IsFirst (· ∉ allowed) items item := by
  simp [firstOutside?, find?_eq_some_iff_isFirst]

theorem firstOutside?_eq_none_iff : firstOutside? allowed items = none ↔ items ⊆ allowed := by
  simp [firstOutside?, List.find?_eq_none, List.subset_def]

theorem firstOutside?_congr (h : ∀ item, item ∈ allowed ↔ item ∈ allowed') :
    firstOutside? allowed items = firstOutside? allowed' items := by
  have hcontains : allowed.contains = allowed'.contains := by
    funext item
    rw [Bool.eq_iff_iff, List.contains_iff_mem, List.contains_iff_mem, h]
  rw [firstOutside?, firstOutside?, hcontains]

end

/-- The first problem of the keys of an object is decided by its keys. -/
theorem keyRejection_eq (schema : Schema) (members : List (String × Json)) :
    keyRejection schema members =
      ((firstOutside? (Assoc.keys members) schema.requiredNames).map .missing).or
        ((firstOutside? schema.propertyNames (Assoc.keys members)).map .unknown) := by
  have hcontains (name : String) :
      Assoc.contains members name = (Assoc.keys members).contains name := by
    rw [Bool.eq_iff_iff]
    simp [Assoc.contains, Assoc.keys]
  have hunknown : firstOutside? schema.propertyNames (Assoc.keys members) =
      (members.find? fun m => !schema.propertyNames.contains m.1).map (·.1) := by
    rw [firstOutside?, Assoc.keys, List.find?_map]
    rfl
  rw [keyRejection, hunknown, firstOutside?]
  simp only [hcontains]
  cases schema.requiredNames.find? fun name => !(Assoc.keys members).contains name with
  | some name => rfl
  | none =>
    rw [Option.map_none, Option.none_or, Option.map_map]
    rfl

/-- The keys of an object are judged as its first problem says. -/
theorem keyVerdict_obj_iff {required : List String} {properties : List (String × Schema)}
    {members : List (String × Json)} {problem : Option String} :
    KeyVerdict required (properties.map (·.1)) (.obj members) problem ↔
      (keyRejection [.type .object, .required required, .properties properties,
        .additionalProperties false] members).map Rejection.message = problem := by
  have hrejection : keyRejection [.type .object, .required required, .properties properties,
      .additionalProperties false] members =
      ((firstOutside? (Assoc.keys members) required).map .missing).or
        ((firstOutside? (properties.map (·.1)) (Assoc.keys members)).map .unknown) :=
    keyRejection_eq _ members
  rw [hrejection]
  constructor
  · intro h
    cases h with
    | passed hrequired hknown =>
      rw [firstOutside?_eq_none_iff.mpr hrequired, firstOutside?_eq_none_iff.mpr hknown]
      rfl
    | notObject hobject => exact absurd rfl (hobject members)
    | missing hname =>
      rw [(firstOutside?_eq_some_iff _).mpr hname]
      rfl
    | unknown hrequired hkey =>
      rw [firstOutside?_eq_none_iff.mpr hrequired, (firstOutside?_eq_some_iff _).mpr hkey]
      rfl
  · rintro rfl
    cases hmissing : firstOutside? (Assoc.keys members) required with
    | some name => exact .missing ((firstOutside?_eq_some_iff name).mp hmissing)
    | none =>
      have hrequired := firstOutside?_eq_none_iff.mp hmissing
      cases hunknown : firstOutside? (properties.map (·.1)) (Assoc.keys members) with
      | none => exact .passed hrequired (firstOutside?_eq_none_iff.mp hunknown)
      | some key => exact .unknown hrequired ((firstOutside?_eq_some_iff key).mp hunknown)

section

variable {agent : String} {c : Contract} {body : Json}

theorem structuralRejection_obj (h : table.get? agent = some c) (members : List (String × Json)) :
    structuralRejection agent (.obj members) = .ok (keyRejection c.request members) := by
  simp only [structuralRejection, requestSchema, h]
  rfl

theorem structuralProblem_obj (h : table.get? agent = some c) (members : List (String × Json)) :
    structuralProblem agent (.obj members) =
      .ok ((keyRejection c.request members).map Rejection.message) := by
  rw [structuralProblem, structuralRejection_obj h]
  rfl

theorem structuralProblem_unlisted (h : table.get? agent = none) (members : List (String × Json)) :
    structuralProblem agent (.obj members) = .error ⟨agent⟩ := by
  simp only [structuralProblem, structuralRejection, requestSchema, h]
  rfl

theorem structuralProblem_of_not_obj (agent : String) (h : ∀ members, body ≠ .obj members) :
    structuralProblem agent body = .ok (some "Request body must be a JSON object") := by
  cases body with
  | obj members => exact absurd rfl (h members)
  | null | bool | int | float | str | arr => rfl

theorem keyVerdict_iff_of_not_obj {required known : List String} {problem : Option String}
    (h : ∀ members, body ≠ .obj members) :
    KeyVerdict required known body problem ↔
      problem = some "Request body must be a JSON object" := by
  constructor
  · intro hverdict
    cases hverdict with
    | notObject => rfl
    | passed | missing | unknown => exact absurd rfl (h _)
  · rintro rfl
    exact .notObject h

theorem structuralProblem_eq_iff (agent : String) (body : Json)
    (said : Except UnknownContract (Option String)) :
    structuralProblem agent body = said ↔ Verdict agent body said := by
  by_cases hbody : ∃ members, body = .obj members
  · obtain ⟨members, rfl⟩ := hbody
    cases hc : table.get? agent with
    | none =>
      rw [structuralProblem_unlisted hc]
      constructor
      · rintro rfl
        exact .unlisted hc
      · intro hverdict
        cases hverdict with
        | listed hlisted => cases hc.symm.trans hlisted
        | unlisted => rfl
        | notObject _ hobject => exact absurd rfl (hobject members)
    | some c =>
      obtain ⟨required, properties, hrequest⟩ := request_closed hc
      rw [structuralProblem_obj hc, hrequest]
      constructor
      · rintro rfl
        exact .listed hc hrequest (keyVerdict_obj_iff.mpr rfl)
      · intro hverdict
        cases hverdict with
        | listed hlisted hclosed hkeys =>
          cases hc.symm.trans hlisted
          cases hrequest.symm.trans hclosed
          rw [keyVerdict_obj_iff.mp hkeys]
        | unlisted hunlisted => cases hc.symm.trans hunlisted
        | notObject hunlisted => cases hc.symm.trans hunlisted
  · have hobject : ∀ members, body ≠ .obj members := fun members h => hbody ⟨members, h⟩
    rw [structuralProblem_of_not_obj agent hobject]
    constructor
    · rintro rfl
      cases hc : table.get? agent with
      | none => exact .notObject hc hobject
      | some c =>
        obtain ⟨required, properties, hrequest⟩ := request_closed hc
        exact .listed hc hrequest (.notObject hobject)
    · intro hverdict
      cases hverdict with
      | listed _ _ hkeys => rw [(keyVerdict_iff_of_not_obj hobject).mp hkeys]
      | unlisted => exact absurd rfl (hobject _)
      | notObject => rfl

/-- Other values under the same keys make no difference. -/
theorem structuralProblem_congr (agent : String) {members members' : List (String × Json)}
    (h : Assoc.keys members = Assoc.keys members') :
    structuralProblem agent (.obj members) = structuralProblem agent (.obj members') := by
  cases hc : table.get? agent with
  | none => rw [structuralProblem_unlisted hc, structuralProblem_unlisted hc]
  | some c =>
    rw [structuralProblem_obj hc, structuralProblem_obj hc, keyRejection_eq, keyRejection_eq, h]

/-- Of keys in two orders either the same is said, or that some key is unknown. -/
theorem keyRejection_perm (schema : Schema) {members members' : List (String × Json)}
    (h : members.Perm members') :
    keyRejection schema members = keyRejection schema members' ∨
      ∃ key key', keyRejection schema members = some (.unknown key) ∧
        keyRejection schema members' = some (.unknown key') := by
  have hkeys : (Assoc.keys members).Perm (Assoc.keys members') := h.map _
  rw [keyRejection_eq, keyRejection_eq, firstOutside?_congr fun name => hkeys.mem_iff]
  cases firstOutside? (Assoc.keys members') schema.requiredNames with
  | some name => exact .inl rfl
  | none =>
    have hnone : firstOutside? schema.propertyNames (Assoc.keys members) = none ↔
        firstOutside? schema.propertyNames (Assoc.keys members') = none := by
      rw [firstOutside?_eq_none_iff, firstOutside?_eq_none_iff]
      exact ⟨List.Subset.trans hkeys.symm.subset, List.Subset.trans hkeys.subset⟩
    cases hfirst : firstOutside? schema.propertyNames (Assoc.keys members) with
    | none =>
      rw [hnone.mp hfirst]
      exact .inl rfl
    | some key =>
      cases hfirst' : firstOutside? schema.propertyNames (Assoc.keys members') with
      | none =>
        rw [hnone.mpr hfirst'] at hfirst
        cases hfirst
      | some key' => exact .inr ⟨key, key', rfl, rfl⟩

end

/-- How structural validation judges the bodies for an agent. -/
structure JudgesKeys (agent : String) : Prop where
  verdict : ∀ body said, structuralProblem agent body = said ↔ Verdict agent body said
  values : ∀ members members', Assoc.keys members = Assoc.keys members' →
    structuralProblem agent (.obj members) = structuralProblem agent (.obj members')
  order : ∀ members members' : List (String × Json), members.Perm members' →
    structuralProblem agent (.obj members) = structuralProblem agent (.obj members') ∨
      ∃ key key', structuralProblem agent (.obj members) = .ok (some ("Unknown field: " ++ key)) ∧
        structuralProblem agent (.obj members') = .ok (some ("Unknown field: " ++ key'))

/-- Every body is judged for every agent, with a contract or without one, by the verdicts on its
keys and by nothing else. -/
theorem structuralProblem_judges (agent : String) : JudgesKeys agent where
  verdict := structuralProblem_eq_iff agent
  values _ _ h := structuralProblem_congr agent h
  order members members' h := by
    cases hc : table.get? agent with
    | none =>
      rw [structuralProblem_unlisted hc, structuralProblem_unlisted hc]
      exact .inl rfl
    | some c =>
      rw [structuralProblem_obj hc, structuralProblem_obj hc]
      obtain hsame | ⟨key, key', hkey, hkey'⟩ := keyRejection_perm c.request h
      · rw [hsame]
        exact .inl rfl
      · rw [hkey, hkey']
        exact .inr ⟨key, key', rfl, rfl⟩

/-- A missing key goes before an unknown one, the empty key among these. -/
example : structuralProblem "bootstrap" (.obj [("", .null), ("agent_name", .str "a")]) =
    .ok (some "Missing required field: template_id") := by decide

end Contract

end RegistryGateway
