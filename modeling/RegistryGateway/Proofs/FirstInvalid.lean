import RegistryGateway.Proofs.FirstMisfit
import RegistryGateway.Proofs.Reading
import RegistryGateway.Proofs.Comparison

/-! The field that strict validation names.  Of an object whose keys are right it says nothing, or
it names the first field of the typed request whose value is not of its shape and says what is wrong
inside that value.  The order of the keys makes no difference to it, neither that of the object nor
that of an object inside it, and no more do the values of the fields after an invalid one. -/

namespace RegistryGateway

open Shape

namespace Contract

/-- The fields of an agent's typed request. -/
def requestFields (agent : String) : List (String × Shape × Option Json) :=
  match requestShapes.get? agent with
  | some (.record _ _ fields) => fields
  | _ => []

/-- A path that begins with a name, with a point before each further step. -/
def dotted (name : String) (steps : List String) : String :=
  name ++ String.join (steps.map ("." ++ ·))

theorem location_cons (name : String) (steps : List String) (fault : Fault) :
    (Misfit.mk (name :: steps) fault).location = dotted name steps := by
  rw [Misfit.location, dotted]
  induction steps generalizing name with
  | nil => simp
  | cons step rest ih =>
    rw [String.intercalate_cons_cons, ih, List.map_cons, String.join_cons, String.append_assoc,
      String.append_assoc]

theorem message_located {name : String} {steps : List String} (fault : Fault)
    (h : dotted name steps ≠ "") :
    (Rejection.invalid ⟨name :: steps, fault⟩).message =
      "Invalid field: " ++ dotted name steps ++ " (" ++ fault.message ++ ")" := by
  let location := (Misfit.mk (name :: steps) fault).location
  have hlocation : location = dotted name steps := location_cons name steps fault
  show "Invalid field: " ++ (if location = "" then "body" else location) ++ " (" ++
    fault.message ++ ")" = _
  rw [hlocation, if_neg h]

/-- The fields of a typed request beside the contract. -/
structure Types (fields : List (String × Shape × Option Json)) (c : Contract) : Prop where
  names : c.request.propertyNames.Perm (fields.map (·.1))
  nodup : (fields.map (·.1)).Nodup
  required : ∀ field ∈ fields, field.2.2.isNone = true → field.1 ∈ c.request.requiredNames
  located : ∀ field ∈ fields, ¬field.1.toList <+: "body".toList
  tolerant : tolerantFields fields = true
  orderFree : ∀ field ∈ fields, field.2.1.orderFree = true

section

variable {agent : String} {c : Contract}

theorem requestFields_types (h : table.get? agent = some c) : Types (requestFields agent) c := by
  obtain ⟨rfl, rfl⟩ | ⟨rfl, rfl⟩ | ⟨rfl, rfl⟩ := table_cases h <;>
    constructor <;> decide

theorem requestShape_eq (h : table.get? agent = some c) :
    ∃ name, requestShapes.get? agent = some (.record name .refuse (requestFields agent)) := by
  obtain ⟨rfl, -⟩ | ⟨rfl, -⟩ | ⟨rfl, -⟩ := table_cases h <;> exact ⟨_, rfl⟩

theorem dotted_ne_body (h : table.get? agent = some c) {field : String × Shape × Option Json}
    (hfield : field ∈ requestFields agent) (steps : List String) :
    dotted field.1 steps ≠ "body" ∧ dotted field.1 steps ≠ "" := by
  have hstarts (text : String) (heq : dotted field.1 steps = text) :
      field.1.toList <+: text.toList := by
    rw [← heq, dotted, String.toList_append]
    exact List.prefix_append _ _
  have hbody := (requestFields_types h).located field hfield
  refine ⟨fun heq => hbody (hstarts _ heq), fun heq => hbody ?_⟩
  exact (hstarts _ heq).trans List.nil_prefix

/-- The keys of an object are right when the required ones are there and no others than known
ones. -/
structure RightKeys (c : Contract) (members : List (String × Json)) : Prop where
  required : c.request.requiredNames ⊆ Assoc.keys members
  known : Assoc.keys members ⊆ c.request.propertyNames

variable {members : List (String × Json)}

theorem structuralRejection_eq_ok_none_iff (h : table.get? agent = some c) :
    structuralRejection agent (.obj members) = .ok none ↔ RightKeys c members := by
  rw [structuralRejection_obj h, keyRejection_eq, Except.ok.injEq, Option.or_eq_none_iff,
    Option.map_eq_none_iff, Option.map_eq_none_iff, firstOutside?_eq_none_iff,
    firstOutside?_eq_none_iff]
  exact ⟨fun hkeys => ⟨hkeys.1, hkeys.2⟩, fun hkeys => ⟨hkeys.required, hkeys.known⟩⟩

theorem structuralRejection_of_problem {body : Json} (h : structuralProblem agent body = .ok none) :
    structuralRejection agent body = .ok none := by
  rw [structuralProblem] at h
  cases hfound : structuralRejection agent body with
  | error e =>
    rw [hfound] at h
    cases h
  | ok found =>
    cases found with
    | none => rfl
    | some rejection =>
      rw [hfound] at h
      cases h

theorem exists_rightKeys {body : Json} (h : structuralRejection agent body = .ok none) :
    ∃ c members, body = .obj members ∧ table.get? agent = some c ∧ RightKeys c members := by
  cases body with
  | obj members =>
    cases hc : table.get? agent with
    | none =>
      simp only [structuralRejection, requestSchema, hc] at h
      cases h
    | some c => exact ⟨c, members, rfl, rfl, (structuralRejection_eq_ok_none_iff hc).mp h⟩
  | null | bool | int | float | str | arr => cases h

namespace RightKeys

theorem perm {members' : List (String × Json)} (h : RightKeys c members)
    (hperm : members.Perm members') : RightKeys c members' := by
  have hkeys : (Assoc.keys members).Perm (Assoc.keys members') := hperm.map _
  exact ⟨List.Subset.trans h.required hkeys.subset,
    List.Subset.trans hkeys.symm.subset h.known⟩

theorem put {key : String} (h : RightKeys c members) (hkey : key ∈ c.request.propertyNames)
    (v : Json) : RightKeys c (Assoc.put members key v) := by
  refine ⟨?_, ?_⟩ <;> rw [Assoc.keys_put] <;> split
  · exact h.required
  · exact List.subset_append_of_subset_left _ h.required
  · exact h.known
  · exact List.append_subset.mpr ⟨h.known, List.cons_subset.mpr ⟨hkey, List.nil_subset _⟩⟩

end RightKeys

variable [Platform]

/-- The strict problem of a body as it is reported. -/
def strictProblem (agent : String) (body : Json) : Except UnknownContract (Option String) :=
  (strictRejection agent body).map (Option.map Rejection.message)

/-- The value under the name of a field is not of its shape. -/
def Invalid (members : List (String × Json)) (field : String × Shape × Option Json) : Prop :=
  ∃ v, Assoc.get? members field.1 = some v ∧ ¬field.2.1.Admits v

/-- What is said of an object whose keys are those of some fields. -/
inductive TypeVerdict (fields : List (String × Shape × Option Json))
    (members : List (String × Json)) : Option String → Prop
  | valid : (∀ field ∈ fields, ¬Invalid members field) → TypeVerdict fields members none
  | invalid {field : String × Shape × Option Json} {steps : List String} {fault : Fault} :
      IsFirst (Invalid members) fields field → dotted field.1 steps ≠ "body" →
      fault ≠ .unexpected →
      TypeVerdict fields members
        (some ("Invalid field: " ++ dotted field.1 steps ++ " (" ++ fault.message ++ ")"))

/-- The first misfit of an object, field by field. -/
def firstMisfit? (fields : List (String × Shape × Option Json)) (members : List (String × Json)) :
    Option Misfit :=
  fields.findSome? fun field => (fieldMisfits members field).head?

theorem strictProblem_eq (h : table.get? agent = some c) (hkeys : RightKeys c members) :
    strictProblem agent (.obj members) =
      .ok ((firstMisfit? (requestFields agent) members).map
        fun misfit => (Rejection.invalid misfit).message) := by
  obtain ⟨name, hshape⟩ := requestShape_eq h
  have hothers : refused .refuse (requestFields agent) members = [] := by
    rw [refused, others, List.filter_eq_nil_iff]
    intro m hm
    have hname := (requestFields_types h).names.subset (hkeys.known (List.mem_map_of_mem hm))
    obtain ⟨field, hfield, heq⟩ := List.mem_map.mp hname
    have hany : (requestFields agent).any (·.1 = m.1) = true :=
      List.any_eq_true.mpr ⟨field, hfield, decide_eq_true heq⟩
    simp [hany]
  have hfirst : typeRejection agent (.obj members) =
      (firstMisfit? (requestFields agent) members).map .invalid := by
    rw [firstMisfit?, ← List.head?_flatMap]
    have hmisfits := misfits_check_record name .refuse (requestFields agent) members
    rw [hothers, List.map_nil, List.append_nil] at hmisfits
    rw [← hmisfits]
    simp only [typeRejection, hshape]
    cases check (.record name .refuse (requestFields agent)) (.obj members) <;> rfl
  rw [strictProblem, strictRejection_eq ((structuralRejection_eq_ok_none_iff h).mpr hkeys),
    Option.none_or, hfirst]
  show Except.ok (Option.map Rejection.message (Option.map Rejection.invalid _)) = _
  rw [Option.map_map]
  rfl

theorem fieldMisfits_eq_nil_iff (h : table.get? agent = some c) (hkeys : RightKeys c members)
    {field : String × Shape × Option Json} (hfield : field ∈ requestFields agent) :
    fieldMisfits members field = [] ↔ ¬Invalid members field := by
  rw [fieldMisfits, Invalid]
  cases hget : Assoc.get? members field.1 with
  | some v => simp [misfits_eq_nil_iff]
  | none =>
    cases hdefault : field.2.2 with
    | some v => simp
    | none =>
      have hrequired := (requestFields_types h).required field hfield (by rw [hdefault]; rfl)
      obtain ⟨v, hv⟩ := (Assoc.mem_keys_iff members field.1).mp (hkeys.required hrequired)
      cases hget.symm.trans hv

theorem typeVerdict (h : table.get? agent = some c) (hkeys : RightKeys c members) :
    TypeVerdict (requestFields agent) members
      ((firstMisfit? (requestFields agent) members).map
        fun misfit => (Rejection.invalid misfit).message) := by
  have hnil {field : String × Shape × Option Json} (hfield : field ∈ requestFields agent) :
      (fieldMisfits members field).head? = none ↔ ¬Invalid members field := by
    rw [List.head?_eq_none_iff, fieldMisfits_eq_nil_iff h hkeys hfield]
  cases hfirst : firstMisfit? (requestFields agent) members with
  | none =>
    have hall := List.findSome?_eq_none_iff.mp hfirst
    exact .valid fun field hfield => (hnil hfield).mp (hall field hfield)
  | some misfit =>
    obtain ⟨before, field, after, hfields, hmisfit, hbefore⟩ :=
      List.findSome?_eq_some_iff.mp hfirst
    have hfield : field ∈ requestFields agent := hfields ▸ List.mem_append_cons_self
    have hmem := List.mem_of_head? hmisfit
    have hinvalid : IsFirst (Invalid members) (requestFields agent) field := by
      refine ⟨before, after, hfields, fun other hother => ?_, ?_⟩
      · have hothers : other ∈ requestFields agent := hfields ▸ List.mem_append_left _ hother
        exact (hnil hothers).mp (hbefore other hother)
      · by_contra hvalid
        cases ((hnil hfield).mpr hvalid).symm.trans hmisfit
    have hfault : misfit.fault ≠ .unexpected :=
      fieldMisfits_tolerated _ (requestFields_types h).tolerant members misfit
        (List.mem_flatMap.mpr ⟨field, hfield, hmem⟩)
    obtain ⟨steps, hpath⟩ := path_of_mem_fieldMisfits hmem
    obtain ⟨path, fault⟩ := misfit
    obtain rfl : path = field.1 :: steps := hpath
    obtain ⟨hbody, hempty⟩ := dotted_ne_body h hfield steps
    rw [Option.map_some, message_located fault hempty]
    exact .invalid hinvalid hbody hfault

/-! ### Bodies of which the same is said -/

theorem strictProblem_congr (h : table.get? agent = some c) {members' : List (String × Json)}
    (hkeys : RightKeys c members) (hkeys' : RightKeys c members')
    (hfirst : firstMisfit? (requestFields agent) members' =
      firstMisfit? (requestFields agent) members) :
    strictProblem agent (.obj members') = strictProblem agent (.obj members) := by
  rw [strictProblem_eq h hkeys, strictProblem_eq h hkeys', hfirst]

theorem firstMisfit?_congr {fields : List (String × Shape × Option Json)}
    {members' : List (String × Json)}
    (h : ∀ field ∈ fields, fieldMisfits members' field = fieldMisfits members field) :
    firstMisfit? fields members' = firstMisfit? fields members := by
  induction fields with
  | nil => rfl
  | cons field rest ih =>
    rw [List.forall_mem_cons] at h
    have hrest := ih h.2
    simp only [firstMisfit?, List.findSome?_cons] at hrest ⊢
    rw [h.1, hrest]

/-- A misfit of a field is found before those of the fields after it. -/
theorem firstMisfit?_append {before after : List (String × Shape × Option Json)}
    {field : String × Shape × Option Json} (h : fieldMisfits members field ≠ []) :
    firstMisfit? (before ++ field :: after) members = firstMisfit? (before ++ [field]) members := by
  cases hmisfit : (fieldMisfits members field).head? with
  | none => exact absurd (List.head?_eq_none_iff.mp hmisfit) h
  | some misfit => simp [firstMisfit?, List.findSome?_append, hmisfit]

/-- What strict validation says of an object with the right keys, and of others like it. -/
structure NamesFirst (agent : String) (members : List (String × Json)) : Prop where
  verdict : ∃ said, strictProblem agent (.obj members) = .ok said ∧
    TypeVerdict (requestFields agent) members said
  /-- The keys may be in another order. -/
  order : ∀ members' : List (String × Json), members.Perm members' →
    strictProblem agent (.obj members') = strictProblem agent (.obj members)
  /-- The keys of an object inside it may be in another order. -/
  inner : ∀ key inner inner', Assoc.get? members key = some (.obj inner) →
    (Assoc.keys inner).Nodup → inner.Perm inner' →
    strictProblem agent (.obj (Assoc.put members key (.obj inner'))) =
      strictProblem agent (.obj members)
  /-- The fields after an invalid one may have other values. -/
  later : ∀ before field after, requestFields agent = before ++ field :: after →
    Invalid members field → ∀ other ∈ after, ∀ v,
    strictProblem agent (.obj (Assoc.put members other.1 v)) = strictProblem agent (.obj members)

theorem fieldMisfits_inner (h : table.get? agent = some c) {key : String}
    {inner inner' : List (String × Json)} (hget : Assoc.get? members key = some (.obj inner))
    (hinner : (Assoc.keys inner).Nodup) (hperm : inner.Perm inner')
    {field : String × Shape × Option Json} (hfield : field ∈ requestFields agent) :
    fieldMisfits (Assoc.put members key (.obj inner')) field = fieldMisfits members field := by
  by_cases hkey : key = field.1
  · subst hkey
    have horder := (requestFields_types h).orderFree field hfield
    rw [fieldMisfits, fieldMisfits, Assoc.get?_put, if_pos rfl, hget]
    show List.map _ (misfits _) = List.map _ (misfits _)
    rw [misfits_obj_perm hperm hinner field.2.1 horder]
  · refine fieldMisfits_congr ?_
    rw [Assoc.get?_put, if_neg hkey]

theorem strictProblem_later (h : table.get? agent = some c) (hkeys : RightKeys c members)
    {before after : List (String × Shape × Option Json)}
    {field other : String × Shape × Option Json}
    (hfields : requestFields agent = before ++ field :: after) (hinvalid : Invalid members field)
    (hother : other ∈ after) (v : Json) :
    strictProblem agent (.obj (Assoc.put members other.1 v)) =
      strictProblem agent (.obj members) := by
  have htypes := requestFields_types h
  have hmem : field ∈ requestFields agent := hfields ▸ List.mem_append_cons_self
  have hname : other.1 ∈ (requestFields agent).map (·.1) := by
    rw [hfields]
    exact List.mem_map_of_mem (List.mem_append_right _ (List.mem_cons_of_mem _ hother))
  -- The value that is replaced belongs to no field up to the invalid one.
  have hsame : ∀ f ∈ before ++ [field],
      fieldMisfits (Assoc.put members other.1 v) f = fieldMisfits members f := by
    intro f hf
    have hne : other.1 ≠ f.1 := by
      have hnodup := htypes.nodup
      rw [hfields, List.append_cons, List.map_append] at hnodup
      intro heq
      exact (List.nodup_append.mp hnodup).2.2 _ (List.mem_map_of_mem hf) _
        (List.mem_map_of_mem hother) heq.symm
    refine fieldMisfits_congr ?_
    rw [Assoc.get?_put, if_neg hne]
  have hmisfits : fieldMisfits members field ≠ [] := fun hnil =>
    (fieldMisfits_eq_nil_iff h hkeys hmem).mp hnil hinvalid
  have hmisfits' : fieldMisfits (Assoc.put members other.1 v) field ≠ [] := by
    rwa [hsame field (List.mem_append_right _ List.mem_cons_self)]
  refine strictProblem_congr h hkeys (hkeys.put (htypes.names.symm.subset hname) v) ?_
  rw [hfields, firstMisfit?_append hmisfits, firstMisfit?_append hmisfits',
    firstMisfit?_congr hsame]

end

/-- A body that passes structural validation is an object, and strict validation says nothing of it
or names its first invalid field. -/
theorem strictProblem_namesFirst [Platform] {agent : String} {body : Json}
    (h : structuralProblem agent body = .ok none) (hkeys : body.distinctKeys = true) :
    ∃ members, body = .obj members ∧ NamesFirst agent members := by
  obtain ⟨c, members, rfl, hc, hright⟩ := exists_rightKeys (structuralRejection_of_problem h)
  have hnodup : (Assoc.keys members).Nodup := of_decide_eq_true hkeys
  refine ⟨members, rfl, ⟨_, strictProblem_eq hc hright, typeVerdict hc hright⟩, ?_, ?_, ?_⟩
  · intro members' hperm
    refine strictProblem_congr hc hright (hright.perm hperm) (firstMisfit?_congr ?_)
    intro field _
    exact fieldMisfits_congr (Assoc.get?_perm hperm hnodup field.1)
  · intro key inner inner' hget hinner hperm
    have hkey := hright.known ((Assoc.mem_keys_iff members key).mpr ⟨_, hget⟩)
    refine strictProblem_congr hc hright (hright.put hkey _) (firstMisfit?_congr ?_)
    intro field hfield
    exact fieldMisfits_inner hc hget hinner hperm hfield
  · intro before field after hfields hinvalid other hother v
    exact strictProblem_later hc hright hfields hinvalid hother v

open scoped Platform in
/-- The first invalid field of this body is its signal, where the score is missing. -/
theorem strictProblem_namesFirst_signal :
    structuralProblem "reputation" (recording (.obj [("category", .str "latency")])) = .ok none ∧
      strictProblem "reputation" (recording (.obj [("category", .str "latency")])) =
        .ok (some "Invalid field: signal.score (Field required)") ∧
      ∃ members, recording (.obj [("category", .str "latency")]) = .obj members ∧
        NamesFirst "reputation" members :=
  ⟨by decide, by decide, strictProblem_namesFirst (by decide) (by decide)⟩

end Contract

end RegistryGateway
