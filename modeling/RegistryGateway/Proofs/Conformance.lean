import RegistryGateway.Contract.Table
import RegistryGateway.Proofs.Order

/-! Conformance to a schema.  A value conforms when it satisfies every keyword of the schema, and a
keyword asks nothing of values of other types than its own.  Read leniently, a schema of numbers
also takes flags and text that stand for numbers, and a property that is not required may be null;
what conforms to a schema as published conforms to it read leniently. -/

namespace RegistryGateway

/-- How a schema is read: as published, or leniently. -/
inductive Rigour
  | exact
  | lenient
  deriving DecidableEq

def Schema.takesNumbers (schema : Schema) : Bool :=
  schema.any fun | .type .number => true | _ => false

theorem Schema.takesNumbers_iff {schema : Schema} :
    schema.takesNumbers = true ↔ .type .number ∈ schema := by
  simp only [takesNumbers, List.any_eq_true]
  constructor
  · rintro ⟨k, hmem, hk⟩
    split at hk
    · exact hmem
    · cases hk
  · exact fun h => ⟨_, h, rfl⟩

/-- Whether a value is of a type.  Integers and doubles are numbers, flags are not. -/
def SchemaType.admits : SchemaType → Json → Bool
  | .string, .str _ | .number, .int _ | .number, .float _ | .array, .arr _ | .object, .obj _ => true
  | _, _ => false

variable [Platform]

namespace Json

/-- The number that a value stands for: zero or one for a flag, and what a text spells.  Every other
value stands for itself. -/
def asNumber : Json → Json
  | .bool b => .int (if b then 1 else 0)
  | .str s =>
    match Shape.realOfText s with
    | .ok d => .float d
    | .error _ => .str s
  | v => v

/-- Whether a number is at least an integer. -/
def atLeast (limit : Int) : Json → Bool
  | .int i => limit ≤ i
  | .float d => d.atLeast limit
  | _ => true

/-- Whether a number is at most an integer. -/
def atMost (limit : Int) : Json → Bool
  | .int i => i ≤ limit
  | .float d => d.atMost limit
  | _ => true

end Json

namespace Schema

/-- What a value counts as under a schema. -/
def reading : Rigour → Schema → Json → Json
  | .exact, _, v => v
  | .lenient, schema, v => if schema.takesNumbers then v.asNumber else v

/-- Whether a property may have a value that does not conform. -/
def tolerates : Rigour → List String → String → Json → Bool
  | .exact, _, _, _ => false
  | .lenient, required, name, v => v.isNull && !required.contains name

mutual

/-- Whether a value satisfies some keywords of a schema. -/
def satisfiesAll (rigour : Rigour) (schema : Schema) : List Keyword → Json → Bool
  | [], _ => true
  | k :: rest, v => satisfies rigour schema k v && satisfiesAll rigour schema rest v

/-- Whether a value satisfies a keyword that stands in a schema. -/
def satisfies (rigour : Rigour) (schema : Schema) : Keyword → Json → Bool
  | .type t, v => t.admits v
  | .required names, .obj members => names.all (Assoc.contains members)
  | .properties schemas, .obj members =>
    satisfyProperties rigour schema.requiredNames schemas members
  | .items item, .arr items =>
    items.all fun v => satisfiesAll rigour item item (reading rigour item v)
  | .enum options, v => options.any fun s => match v with | .str t => t = s | _ => false
  | .minimum limit, v => v.atLeast limit
  | .maximum limit, v => v.atMost limit
  | .additionalProperties false, .obj members =>
    members.all fun m => schema.propertyNames.contains m.1
  | _, _ => true

/-- Whether the members of an object satisfy the schemas of their names. -/
def satisfyProperties (rigour : Rigour) (required : List String) :
    List (String × List Keyword) → List (String × Json) → Bool
  | [], _ => true
  | (name, schema) :: rest, members =>
    (match Assoc.get? members name with
      | none => true
      | some v =>
        tolerates rigour required name v ||
          satisfiesAll rigour schema schema (reading rigour schema v)) &&
      satisfyProperties rigour required rest members

end

/-- Whether a schema allows a value. -/
def conforms (rigour : Rigour) (schema : Schema) (v : Json) : Bool :=
  satisfiesAll rigour schema schema (reading rigour schema v)

variable {rigour : Rigour} {schema : Schema} {v : Json}

theorem satisfiesAll_iff (keywords : List Keyword) :
    satisfiesAll rigour schema keywords v = true ↔
      ∀ k ∈ keywords, satisfies rigour schema k v = true := by
  induction keywords with
  | nil => simp [satisfiesAll]
  | cons k rest ih => simp [satisfiesAll, ih]

theorem satisfyProperties_iff (required : List String) (properties : List (String × Schema))
    (members : List (String × Json)) :
    satisfyProperties rigour required properties members = true ↔
      ∀ p ∈ properties, ∀ v, Assoc.get? members p.1 = some v →
        tolerates rigour required p.1 v = true ∨ p.2.conforms rigour v = true := by
  induction properties with
  | nil => simp [satisfyProperties]
  | cons p rest ih =>
    obtain ⟨name, schema⟩ := p
    rw [satisfyProperties, Bool.and_eq_true, ih, List.forall_mem_cons]
    refine and_congr_left fun _ => ?_
    cases Assoc.get? members name <;> simp [conforms]

theorem satisfies_items_iff (item : Schema) (items : List Json) :
    satisfies rigour schema (.items item) (.arr items) = true ↔
      ∀ v ∈ items, item.conforms rigour v = true := by
  simp [satisfies, conforms]

/-! ### Schemas of objects -/

theorem conforms_object_iff {rest : Schema} (hn : takesNumbers rest = false) :
    conforms rigour (.type .object :: rest) v = true ↔
      ∃ members, v = .obj members ∧
        ∀ k ∈ rest, satisfies rigour (.type .object :: rest) k (.obj members) = true := by
  have hreading : reading rigour (.type .object :: rest) v = v := by
    cases rigour with
    | exact => rfl
    | lenient =>
      have hnone : takesNumbers (.type .object :: rest) = false := by simpa [takesNumbers] using hn
      simp [reading, hnone]
  rw [conforms, hreading, satisfiesAll_iff, List.forall_mem_cons]
  cases v with
  | obj members => simp [satisfies, SchemaType.admits]
  | null | bool | int | float | str | arr => simp [satisfies, SchemaType.admits]

/-- What schemas of objects ask of the members of one: some are required, some have a schema, and
in a closed object there are no others. -/
structure MembersConform (rigour : Rigour) (required : List String)
    (properties : List (String × Schema)) (closed : Bool) (members : List (String × Json)) :
    Prop where
  present : ∀ name ∈ required, Assoc.contains members name = true
  property : ∀ p ∈ properties, ∀ v, Assoc.get? members p.1 = some v →
    tolerates rigour required p.1 v = true ∨ p.2.conforms rigour v = true
  known : closed = true → ∀ m ∈ members, m.1 ∈ properties.map (·.1)

/-- The order of the properties does not matter. -/
theorem MembersConform.congr {required : List String} {first second : List (String × Schema)}
    {closed : Bool} {members : List (String × Json)} (h : first.Perm second) :
    MembersConform rigour required first closed members ↔
      MembersConform rigour required second closed members := by
  have hnames (name : String) : name ∈ first.map (·.1) ↔ name ∈ second.map (·.1) :=
    (h.map _).mem_iff
  constructor
  · rintro ⟨hpresent, hproperty, hknown⟩
    exact ⟨hpresent, fun p hp => hproperty p (h.mem_iff.mpr hp),
      fun hc m hm => (hnames _).mp (hknown hc m hm)⟩
  · rintro ⟨hpresent, hproperty, hknown⟩
    exact ⟨hpresent, fun p hp => hproperty p (h.mem_iff.mp hp),
      fun hc m hm => (hnames _).mpr (hknown hc m hm)⟩

section

variable (required : List String) (properties : List (String × Schema))

theorem conforms_members_iff {rest : Schema} {closed : Bool} (hn : takesNumbers rest = false)
    (h : ∀ members,
      (∀ k ∈ rest, satisfies rigour (.type .object :: rest) k (.obj members) = true) ↔
        MembersConform rigour required properties closed members) :
    conforms rigour (.type .object :: rest) v = true ↔
      ∃ members, v = .obj members ∧ MembersConform rigour required properties closed members := by
  rw [conforms_object_iff hn]
  exact exists_congr fun members => and_congr_right fun _ => h members

theorem conforms_closed_iff :
    conforms rigour
        [.type .object, .required required, .properties properties, .additionalProperties false] v =
          true ↔
      ∃ members, v = .obj members ∧ MembersConform rigour required properties true members := by
  refine conforms_members_iff required properties rfl fun members => ?_
  simp only [List.forall_mem_cons, List.not_mem_nil, false_imp_iff, implies_true, and_true,
    satisfies, satisfyProperties_iff, List.all_eq_true, List.contains_iff_mem]
  exact ⟨fun h => ⟨h.1, h.2.1, fun _ => h.2.2⟩, fun h => ⟨h.present, h.property, h.known rfl⟩⟩

theorem conforms_open_iff :
    conforms rigour [.type .object, .required required, .properties properties] v = true ↔
      ∃ members, v = .obj members ∧ MembersConform rigour required properties false members := by
  refine conforms_members_iff required properties rfl fun members => ?_
  simp only [List.forall_mem_cons, List.not_mem_nil, false_imp_iff, implies_true, and_true,
    satisfies, satisfyProperties_iff, List.all_eq_true]
  exact ⟨fun h => ⟨h.1, h.2, nofun⟩, fun h => ⟨h.present, h.property⟩⟩

/-- The keywords may also stand the other way round. -/
theorem conforms_open_swap_iff :
    conforms rigour [.type .object, .properties properties, .required required] v = true ↔
      ∃ members, v = .obj members ∧ MembersConform rigour required properties false members := by
  refine conforms_members_iff required properties rfl fun members => ?_
  simp only [List.forall_mem_cons, List.not_mem_nil, false_imp_iff, implies_true, and_true,
    satisfies, satisfyProperties_iff, List.all_eq_true]
  exact ⟨fun h => ⟨h.2, h.1, nofun⟩, fun h => ⟨h.property, h.present⟩⟩

end

/-! ### From the published reading to the lenient one -/

/-- A number stands for itself. -/
theorem reading_lenient_of_satisfies (h : satisfiesAll rigour schema schema v = true) :
    reading .lenient schema v = v := by
  simp only [reading]
  split
  next hn =>
    have htype := (satisfiesAll_iff schema).mp h _ (takesNumbers_iff.mp hn)
    simp only [satisfies] at htype
    cases v with
    | int | float => rfl
    | null | bool | str | arr | obj => cases htype
  · rfl

mutual

theorem satisfiesAll_lenient (schema : Schema) : (keywords : List Keyword) → (v : Json) →
    satisfiesAll .exact schema keywords v = true → satisfiesAll .lenient schema keywords v = true
  | [], _, _ => by simp [satisfiesAll]
  | k :: rest, v, h => by
    simp only [satisfiesAll, Bool.and_eq_true] at h ⊢
    exact ⟨satisfies_lenient schema k v h.1, satisfiesAll_lenient schema rest v h.2⟩

theorem satisfies_lenient (schema : Schema) : (k : Keyword) → (v : Json) →
    satisfies .exact schema k v = true → satisfies .lenient schema k v = true
  | .items item, v, h => by
    cases v with
    | arr items =>
      simp only [satisfies, reading, List.all_eq_true] at h
      rw [satisfies_items_iff]
      intro v hv
      rw [conforms, reading_lenient_of_satisfies (h v hv)]
      exact satisfiesAll_lenient item item v (h v hv)
    | null | bool | int | float | str | obj => simp only [satisfies]
  | .properties schemas, v, h => by
    cases v with
    | obj members =>
      simp only [satisfies] at h ⊢
      exact satisfyProperties_lenient _ schemas members h
    | null | bool | int | float | str | arr => simp only [satisfies]
  | .required _, v, h => by cases v <;> exact h
  | .additionalProperties allowed, v, h => by cases allowed <;> cases v <;> exact h
  | .type _, _, h | .enum _, _, h | .minimum _, _, h | .maximum _, _, h | .format _, _, h => h

theorem satisfyProperties_lenient (required : List String) : (properties : List (String × Schema)) →
    (members : List (String × Json)) →
    satisfyProperties .exact required properties members = true →
      satisfyProperties .lenient required properties members = true
  | [], _, _ => by simp [satisfyProperties]
  | (name, schema) :: rest, members, h => by
    simp only [satisfyProperties, Bool.and_eq_true] at h ⊢
    refine ⟨?_, satisfyProperties_lenient required rest members h.2⟩
    have hfirst := h.1
    split at hfirst
    · rfl
    next v hv =>
      simp only [tolerates, reading, Bool.false_or] at hfirst
      rw [reading_lenient_of_satisfies hfirst, satisfiesAll_lenient schema schema v hfirst,
        Bool.or_true]

end

/-- What conforms to a schema as published conforms to it read leniently. -/
theorem conforms_lenient (h : schema.conforms .exact v = true) :
    schema.conforms .lenient v = true := by
  have hall : satisfiesAll .exact schema schema v = true := h
  rw [conforms, reading_lenient_of_satisfies hall]
  exact satisfiesAll_lenient schema schema v hall

end Schema

end RegistryGateway
