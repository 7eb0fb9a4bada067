import RegistryGateway.Contract.Validation
import RegistryGateway.Platform.Standard
import RegistryGateway.Proofs.Admission
import RegistryGateway.Proofs.Conformance

/-! Strict validation against the published contracts.  The typed requests and the published schemas
are written down apart; they agree on the bodies that conform to the schemas read leniently, and
those are the bodies that strict validation lets through.  So what conforms as published gets
through, and what gets through need not conform as published: a property may be null, and a score
may be a flag or text. -/

namespace RegistryGateway

open Schema Shape

namespace Contract

theorem table_cases {agent : String} {c : Contract} (h : table.get? agent = some c) :
    agent = "index" ∧ c = index ∨ agent = "reputation" ∧ c = reputation ∨
      agent = "bootstrap" ∧ c = bootstrap := by
  simpa [table] using Assoc.mem_of_get? h

/-- Every published request is a closed object. -/
theorem request_closed {agent : String} {c : Contract} (h : table.get? agent = some c) :
    ∃ names properties, c.request =
      [.type .object, .required names, .properties properties, .additionalProperties false] := by
  obtain ⟨rfl, rfl⟩ | ⟨rfl, rfl⟩ | ⟨rfl, rfl⟩ := table_cases h <;> exact ⟨_, _, rfl⟩

theorem keyRejection_eq_none_iff (schema : Schema) (members : List (String × Json)) :
    keyRejection schema members = none ↔
      (∀ name ∈ schema.requiredNames, Assoc.contains members name = true) ∧
        ∀ m ∈ members, m.1 ∈ schema.propertyNames := by
  rw [keyRejection]
  cases h : schema.requiredNames.find? fun name => !Assoc.contains members name with
  | some name =>
    have hmissing := List.find?_some h
    refine iff_of_false nofun fun hall => ?_
    simp [hall.1 name (List.mem_of_find?_eq_some h)] at hmissing
  | none =>
    have hpresent : ∀ name ∈ schema.requiredNames, Assoc.contains members name = true := by
      simpa [List.find?_eq_none] using h
    simpa using fun _ => hpresent

theorem tolerates_lenient_iff (names : List String) (name : String) (v : Json) :
    tolerates .lenient names name v = true ↔ v = .null ∧ name ∉ names := by
  cases v <;> simp [tolerates, Json.isNull]

section

variable [Platform]

/-- A schema and a shape take the same values, where the schema is read leniently. -/
def Agrees (schema : Schema) (shape : Shape) : Prop :=
  ∀ v, schema.conforms .lenient v = true ↔ shape.Admits v

theorem conforms_string_iff (rigour : Rigour) (v : Json) :
    string.conforms rigour v = true ↔ ∃ s, v = .str s := by
  cases rigour <;> cases v <;>
    simp [string, conforms, satisfiesAll, satisfies, reading, takesNumbers, SchemaType.admits]

theorem conforms_oneOf_iff (options : List String) (rigour : Rigour) (v : Json) :
    (oneOf options).conforms rigour v = true ↔ ∃ s ∈ options, v = .str s := by
  cases rigour <;> cases v <;>
    simp [oneOf, conforms, satisfiesAll, satisfies, reading, takesNumbers, SchemaType.admits]

theorem conforms_list_iff (item : Schema) (rigour : Rigour) (v : Json) :
    conforms rigour [.type .array, .items item] v = true ↔
      ∃ items, v = .arr items ∧ ∀ x ∈ items, item.conforms rigour x = true := by
  cases rigour <;> cases v <;>
    simp [conforms, satisfiesAll, satisfies, reading, takesNumbers, SchemaType.admits]

theorem string_agrees : Agrees string .text := fun v => by
  rw [conforms_string_iff, admits_text_iff]

theorem oneOf_agrees (named : Bool) (options : List String) :
    Agrees (oneOf options) (.choice named options) := fun v => by
  rw [conforms_oneOf_iff, admits_choice_iff]

theorem list_agrees {item : Schema} {shape : Shape} (h : Agrees item shape) :
    Agrees [.type .array, .items item] (.list shape) := fun v => by
  simp only [conforms_list_iff, admits_list_iff, h _]

theorem table_agrees : Agrees [.type .object] (.table .any) := fun v => by
  rw [admits_table_any_iff, conforms_object_iff rfl]
  simp

theorem conforms_score_iff (rigour : Rigour) (v : Json) :
    conforms rigour [.type .number, .minimum 0, .maximum 1] v = true ↔
      (∃ i : Int, reading rigour [.type .number] v = .int i ∧ 0 ≤ i ∧ i ≤ 1) ∨
      ∃ d : Double, reading rigour [.type .number] v = .float d ∧ d.atLeast 0 = true ∧
        d.atMost 1 = true := by
  have hreading : reading rigour [.type .number, .minimum 0, .maximum 1] v =
      reading rigour [.type .number] v := by
    cases rigour <;> rfl
  rw [conforms, hreading]
  cases reading rigour [.type .number] v <;>
    simp [satisfiesAll, satisfies, SchemaType.admits, Json.atLeast, Json.atMost]

theorem admits_score_iff (v : Json) :
    Admits (.real [.atMost 1, .atLeast 0]) v ↔
      ∃ d, toReal v = .ok d ∧ d.atMost 1 = true ∧ d.atLeast 0 = true := by
  have hmost (d : Double) : Bound.allowsReal d (.atMost 1) = d.atMost 1 := d.le_one_eq
  have hleast (d : Double) : Bound.allowsReal d (.atLeast 0) = d.atLeast 0 := d.zero_le_eq
  simp [admits_real_iff, hmost, hleast]

/-- A flag is read as the double that its integer is read as. -/
theorem toReal_flag (b : Bool) : toReal (.bool b) = toReal (.int (if b then 1 else 0)) := by
  cases b <;> rfl

theorem score_agrees :
    Agrees [.type .number, .minimum 0, .maximum 1] (.real [.atMost 1, .atLeast 0]) := fun v => by
  have hreading : reading .lenient [.type .number] v = v.asNumber := rfl
  have hinteger (i : Int) :
      (∃ d, toReal (.int i) = .ok d ∧ d.atMost 1 = true ∧ d.atLeast 0 = true) ↔
        0 ≤ i ∧ i ≤ 1 := by
    rw [← Double.ofInt?_unit_iff]
    cases h : Double.ofInt? i <;> simp [toReal, h]
  rw [conforms_score_iff, admits_score_iff, hreading]
  cases v with
  | int i => simp [Json.asNumber, hinteger]
  | bool b => simp [Json.asNumber, toReal_flag, hinteger]
  | float d => simp [Json.asNumber, toReal, and_comm]
  | str s => cases h : realOfText s <;> simp [Json.asNumber, toReal, h, and_comm]
  | null | arr | obj => simp [Json.asNumber, toReal]

/-- A property of a schema with the shape that a typed record gives it. -/
structure Property where
  name : String
  schema : Schema
  shape : Shape
  agrees : Agrees schema shape

namespace Property

/-- The property as a schema lists it. -/
def described (p : Property) : String × Schema := (p.name, p.schema)

/-- The property as a field of a record, which may be null unless its name is required. -/
def field (names : List String) (p : Property) : String × Shape × Option Json :=
  if p.name ∈ names then Contract.required p.name p.shape else nullable p.name p.shape

end Property

theorem fieldAdmits_required_iff (name : String) (shape : Shape) (members : List (String × Json)) :
    FieldAdmits (required name shape) members ↔
      Assoc.contains members name = true ∧
        ∀ v, Assoc.get? members name = some v → shape.Admits v := by
  rw [Assoc.contains_iff]
  cases h : Assoc.get? members name <;> simp [FieldAdmits, required, h]

theorem fieldAdmits_nullable_iff (name : String) (shape : Shape) (members : List (String × Json)) :
    FieldAdmits (nullable name shape) members ↔
      ∀ v, Assoc.get? members name = some v → v = .null ∨ shape.Admits v := by
  cases h : Assoc.get? members name <;> simp [FieldAdmits, nullable, admits_optional_iff, h]

/-- A field takes what its property allows. -/
theorem Property.fieldAdmits_iff (names : List String) (p : Property)
    (members : List (String × Json)) :
    FieldAdmits (p.field names) members ↔
      (p.name ∈ names → Assoc.contains members p.name = true) ∧
        ∀ v, Assoc.get? members p.name = some v →
          tolerates .lenient names p.name v = true ∨ p.schema.conforms .lenient v = true := by
  simp only [tolerates_lenient_iff, p.agrees _]
  by_cases h : p.name ∈ names
  · simp [field, h, fieldAdmits_required_iff]
  · simp [field, h, fieldAdmits_nullable_iff]

section

variable (names : List String) (properties : List Property)

/-- The members of an object conform exactly when each field of the record takes its own, provided
that every required name is that of a property. -/
theorem membersConform_iff (hnames : ∀ name ∈ names, name ∈ properties.map (·.name))
    (closed : Bool) (members : List (String × Json)) :
    MembersConform .lenient names (properties.map Property.described) closed members ↔
      (∀ f ∈ properties.map (Property.field names), FieldAdmits f members) ∧
        (closed = true → ∀ m ∈ members, m.1 ∈ properties.map (·.name)) := by
  have hfields : (∀ f ∈ properties.map (Property.field names), FieldAdmits f members) ↔
      ∀ p ∈ properties, (p.name ∈ names → Assoc.contains members p.name = true) ∧
        ∀ v, Assoc.get? members p.name = some v →
          tolerates .lenient names p.name v = true ∨ p.schema.conforms .lenient v = true := by
    simp only [List.forall_mem_map, Property.fieldAdmits_iff]
  rw [hfields]
  constructor
  · intro h
    refine ⟨fun p hp => ⟨h.present p.name, h.property _ (List.mem_map_of_mem hp)⟩, fun hc => ?_⟩
    simpa [Property.described] using h.known hc
  · rintro ⟨hall, hknown⟩
    refine ⟨fun name hname => ?_, ?_, fun hc => ?_⟩
    · obtain ⟨p, hp, rfl⟩ := List.mem_map.mp (hnames name hname)
      exact (hall p hp).1 hname
    · rw [List.forall_mem_map]
      exact fun p hp => (hall p hp).2
    · simpa [Property.described] using hknown hc

/-- A schema of objects agrees with a record that has a field for each property. -/
theorem record_agrees {schema : Schema} {described : List (String × Schema)} {closed : Bool}
    (hschema : ∀ v, schema.conforms .lenient v = true ↔
      ∃ members, v = .obj members ∧ MembersConform .lenient names described closed members)
    (hdescribed : described.Perm (properties.map Property.described))
    (hnames : ∀ name ∈ names, name ∈ properties.map (·.name))
    {name : String} {extras : Extras} (hextras : extras = .refuse ↔ closed = true) :
    Agrees schema (.record name extras (properties.map (Property.field names))) := fun v => by
  have hfield (p : Property) : (p.field names).1 = p.name := by
    rw [Property.field]
    split <;> rfl
  have hkeys : (properties.map (Property.field names)).map (·.1) = properties.map (·.name) := by
    simp [hfield]
  rw [hschema, admits_record_iff, hkeys]
  refine exists_congr fun members => and_congr_right fun _ => ?_
  rw [hextras, ← membersConform_iff names properties hnames]
  exact MembersConform.congr hdescribed

end

/-! ### The requests -/

theorem indexRequest_agrees : Agrees index.request indexRequest :=
  record_agrees ["mode"]
    [⟨"mode", _, _, oneOf_agrees true indexModes⟩,
      ⟨"asset_ids", _, _, list_agrees string_agrees⟩,
      ⟨"asset_type", _, _, oneOf_agrees true assetTypes⟩]
    (fun _ => conforms_closed_iff _ _) (.swap _ _ _) (by simp) (by simp)

def signalSchema : Schema :=
  [.type .object,
    .properties
      [("score", [.type .number, .minimum 0, .maximum 1]),
        ("category", oneOf reputationCategories), ("evidence", string)],
    .required ["score", "category"]]

theorem signal_agrees : Agrees signalSchema reputationSignal :=
  record_agrees ["score", "category"]
    [⟨"score", _, _, score_agrees⟩, ⟨"category", _, _, oneOf_agrees true reputationCategories⟩,
      ⟨"evidence", _, _, string_agrees⟩]
    (fun _ => conforms_open_swap_iff _ _) (.refl _) (by simp) (by simp)

theorem reputationRequest_agrees : Agrees reputation.request reputationRequest :=
  record_agrees ["agent_id", "operation"]
    [⟨"agent_id", _, _, string_agrees⟩,
      ⟨"operation", _, _, oneOf_agrees true reputationOperations⟩,
      ⟨"signal", _, _, signal_agrees⟩]
    (fun _ => conforms_closed_iff _ _) (.refl _) (by simp) (by simp)

theorem bootstrapRequest_agrees : Agrees bootstrap.request bootstrapRequest :=
  record_agrees ["template_id", "agent_name"]
    [⟨"template_id", _, _, string_agrees⟩, ⟨"agent_name", _, _, string_agrees⟩,
      ⟨"config_overrides", _, _, table_agrees⟩]
    (fun _ => conforms_closed_iff _ _) (.refl _) (by simp) (by simp)

/-- Every published request has a typed one that agrees with it. -/
theorem request_agrees {agent : String} {c : Contract} (h : table.get? agent = some c) :
    ∃ shape, requestShapes.get? agent = some shape ∧ Agrees c.request shape := by
  obtain ⟨rfl, rfl⟩ | ⟨rfl, rfl⟩ | ⟨rfl, rfl⟩ := table_cases h
  · exact ⟨_, rfl, indexRequest_agrees⟩
  · exact ⟨_, rfl, reputationRequest_agrees⟩
  · exact ⟨_, rfl, bootstrapRequest_agrees⟩

/-! ### Validation -/

theorem typeRejection_eq_none_iff {agent : String} {shape : Shape}
    (h : requestShapes.get? agent = some shape) (body : Json) :
    typeRejection agent body = none ↔ shape.Admits body := by
  simp only [typeRejection, h, Admits]
  cases hd : shape.check body with
  | ok d => simp
  | error misfits =>
    have hne := check_explains shape body misfits hd
    simp [hne]

theorem strictRejection_eq_ok_none_iff {agent : String} {c : Contract}
    (h : table.get? agent = some c) (body : Json) :
    strictRejection agent body = .ok none ↔
      (∃ members, body = .obj members ∧ keyRejection c.request members = none) ∧
        typeRejection agent body = none := by
  have hschema : requestSchema agent = .ok c.request := by simp only [requestSchema, h]
  cases body with
  | obj members =>
    have hstructural : structuralRejection agent (.obj members) =
        .ok (keyRejection c.request members) := by
      simp only [structuralRejection, hschema]
      rfl
    rw [strictRejection, hstructural]
    cases hkeys : keyRejection c.request members <;> simp [hkeys]
  | null | bool | int | float | str | arr => simp [strictRejection, structuralRejection]

/-- The keys of a body that conforms are as the schema wants them. -/
theorem keyRejection_of_conforms {agent : String} {c : Contract} (h : table.get? agent = some c)
    {rigour : Rigour} {body : Json} (hbody : c.request.conforms rigour body = true) :
    ∃ members, body = .obj members ∧ keyRejection c.request members = none := by
  obtain ⟨names, properties, hrequest⟩ := request_closed h
  rw [hrequest] at hbody ⊢
  obtain ⟨members, rfl, hmembers⟩ := (conforms_closed_iff names properties).mp hbody
  exact ⟨members, rfl, (keyRejection_eq_none_iff _ _).mpr ⟨hmembers.present, hmembers.known rfl⟩⟩

/-- A body has the types of the typed request exactly when it conforms to the published one read
leniently. -/
theorem typeRejection_eq_none_iff_conforms {agent : String} {c : Contract}
    (h : table.get? agent = some c) (body : Json) :
    typeRejection agent body = none ↔ c.request.conforms .lenient body = true := by
  obtain ⟨shape, hshape, hagrees⟩ := request_agrees h
  rw [typeRejection_eq_none_iff hshape, hagrees body]

end

/-- A body that conforms to a published request gets through strict validation. -/
theorem strictRejection_of_conforms [Platform] {agent : String} {c : Contract}
    (h : table.get? agent = some c) {body : Json} (hbody : c.request.conforms .exact body = true) :
    strictRejection agent body = .ok none := by
  rw [strictRejection_eq_ok_none_iff h, typeRejection_eq_none_iff_conforms h]
  exact ⟨keyRejection_of_conforms h hbody, conforms_lenient hbody⟩

/-- A request to record a signal. -/
def recording (signal : Json) : Json :=
  .obj [("agent_id", .str "a"), ("operation", .str "record"), ("signal", signal)]

open scoped Platform in
/-- A signal with half a score gets through. -/
theorem strictRejection_of_conforms_signal :
    strictRejection "reputation"
      (recording (.obj [("score", .float ⟨0x3FE0000000000000⟩), ("category", .str "latency"),
        ("source", .null)])) = .ok none :=
  strictRejection_of_conforms (c := reputation) rfl (by decide +kernel)

/-- A body gets through strict validation exactly when it conforms to the published request read
leniently. -/
theorem strictRejection_eq_none_iff_conforms [Platform] {agent : String} {c : Contract}
    (h : table.get? agent = some c) (body : Json) :
    strictRejection agent body = .ok none ↔ c.request.conforms .lenient body = true := by
  rw [strictRejection_eq_ok_none_iff h, typeRejection_eq_none_iff_conforms h]
  exact ⟨fun hbody => hbody.2, fun hbody => ⟨keyRejection_of_conforms h hbody, hbody⟩⟩

open scoped Platform in
/-- A text that spells a number stands for it, and null evidence for none. -/
theorem strictRejection_eq_none_spelled :
    strictRejection "reputation"
      (recording (.obj [("score", .str " 5e-1 "), ("category", .str "latency"),
        ("evidence", .null)])) = .ok none :=
  (strictRejection_eq_none_iff_conforms (c := reputation) rfl _).mpr (by decide +kernel)

open scoped Platform in
/-- Null members and scores that are no numbers get through, and none of them conforms as
published. -/
theorem strictRejection_unpublished :
    (strictRejection "reputation" (recording .null) = .ok none ∧
        reputation.request.conforms .exact (recording .null) = false) ∧
      (strictRejection "reputation"
          (recording (.obj [("score", .str "0.5"), ("category", .str "latency")])) = .ok none ∧
        reputation.request.conforms .exact
          (recording (.obj [("score", .str "0.5"), ("category", .str "latency")])) = false) ∧
      strictRejection "reputation"
          (recording (.obj [("score", .bool true), ("category", .str "latency")])) = .ok none ∧
        reputation.request.conforms .exact
          (recording (.obj [("score", .bool true), ("category", .str "latency")])) = false := by
  decide +kernel

end Contract

end RegistryGateway
