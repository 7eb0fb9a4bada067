import RegistryGateway.Proofs.FirstMisfit
import RegistryGateway.Proofs.LaxInteger
import RegistryGateway.Shape.Keyed

/-! What the client keeps of a model and of an asset.  Each is read as a record with declared
fields, beside which every other member is kept.  The record is written as its declared fields
followed by the other members of the object in their order; every value is as it was given, except
that the size of an asset becomes an integer, and what is declared and not given is null.  An object
is rejected for its declared fields only, unless it has a key that is no text. -/

namespace RegistryGateway

open Shape

namespace Client

/-- The types of declared fields. -/
inductive FieldType
  | text
  | texts
  | table
  | integer
  deriving DecidableEq

namespace FieldType

def shape : FieldType → Shape
  | .text => .text
  | .texts => .list .text
  | .table => .table .any
  | .integer => .integer []

theorem exists_strings {items : List Json} (h : ∀ v ∈ items, ∃ s, v = .str s) :
    ∃ texts, Json.arr items = .strings texts := by
  induction items with
  | nil => exact ⟨[], rfl⟩
  | cons v rest ih =>
    rw [List.forall_mem_cons] at h
    obtain ⟨⟨s, rfl⟩, hrest⟩ := h
    obtain ⟨texts, htexts⟩ := ih hrest
    exact ⟨s :: texts, by rw [Json.arr.inj htexts]; rfl⟩

end FieldType

/-- A declared field; one that is not required may be null, and is null when it is missing. -/
structure Declaration where
  name : String
  type : FieldType
  required : Bool

namespace Declaration

def field (d : Declaration) : String × Shape × Option Json :=
  if d.required then Contract.required d.name d.type.shape
  else Contract.nullable d.name d.type.shape

theorem field_name (d : Declaration) : d.field.1 = d.name := by
  rw [field]
  split <;> rfl

end Declaration

def modelFields : List Declaration :=
  [⟨"id", .text, true⟩, ⟨"name", .text, true⟩, ⟨"version", .text, true⟩,
    ⟨"description", .text, false⟩, ⟨"provider", .text, false⟩, ⟨"created_at", .text, true⟩,
    ⟨"updated_at", .text, true⟩, ⟨"tags", .texts, false⟩, ⟨"metadata", .table, false⟩]

def assetFields : List Declaration :=
  [⟨"id", .text, true⟩, ⟨"model_id", .text, true⟩, ⟨"name", .text, true⟩,
    ⟨"version", .text, true⟩, ⟨"content_type", .text, true⟩, ⟨"size", .integer, true⟩,
    ⟨"checksum", .text, true⟩, ⟨"storage_path", .text, true⟩, ⟨"created_at", .text, true⟩,
    ⟨"metadata", .table, false⟩]

theorem model_eq : model = .record "Model" .keep (modelFields.map Declaration.field) := rfl

theorem asset_eq : asset = .record "Asset" .keep (assetFields.map Declaration.field) := rfl

theorem map_field_names (declared : List Declaration) :
    (declared.map Declaration.field).map (·.1) = declared.map (·.name) := by
  rw [List.map_map]
  exact List.map_congr_left fun d _ => d.field_name

theorem keys_others (declared : List Declaration) (members : List (String × Json)) :
    Assoc.keys (others (declared.map Declaration.field) members) =
      (Assoc.keys members).filter fun k => k ∉ declared.map (·.name) := by
  rw [← map_field_names, others, Assoc.keys, Assoc.keys, List.filter_map]
  congr 2
  funext m
  rw [Bool.eq_iff_iff]
  simp

theorem get?_others {fields : List (String × Shape × Option Json)} {k : String}
    (h : k ∉ fields.map (·.1)) (members : List (String × Json)) :
    Assoc.get? (others fields members) k = Assoc.get? members k := by
  have hany : (!fields.any (·.1 = k)) = true := by
    rw [Bool.not_eq_true', List.any_eq_false]
    intro field hfield heq
    exact h (of_decide_eq_true heq ▸ List.mem_map_of_mem hfield)
  have hfilter := Assoc.get?_filter (fun k => !fields.any (·.1 = k)) members k
  rwa [hany, if_pos rfl] at hfilter

theorem tolerantFields_declared (declared : List Declaration) :
    tolerantFields (declared.map Declaration.field) = true := by
  induction declared with
  | nil => rfl
  | cons d rest ih =>
    obtain ⟨name, type, required⟩ := d
    rw [List.map_cons, tolerantFields, ih, Bool.and_true]
    cases type <;> cases required <;> rfl

variable [Platform]

namespace FieldType

/-- A value is of a type, and is read as a value. -/
inductive Reads : FieldType → Json → Json → Prop
  | text (s : String) : Reads .text (.str s) (.str s)
  | texts (items : List String) : Reads .texts (.strings items) (.strings items)
  | table (members : List (String × Json)) : Reads .table (.obj members) (.obj members)
  | integer {v : Json} {i : Int} : LaxInteger v i → Reads .integer v (.int i)

theorem Reads.eq_of_ne {type : FieldType} {v w : Json} (h : type.Reads v w)
    (hne : type ≠ .integer) : w = v := by
  cases h with
  | text | texts | table => rfl
  | integer => exact absurd rfl hne

theorem not_reads_null {type : FieldType} {w : Json} : ¬type.Reads .null w := by
  intro h
  cases h with
  | integer hi => cases hi

theorem check_integer_eq_ok_iff (v : Json) (d : Datum) :
    (Shape.integer []).check v = .ok d ↔ ∃ i, LaxInteger v i ∧ d = .plain (.int i) := by
  have hbounds : ((toInteger v).bind fun i => within (Bound.allowsInteger i) [] i) =
      toInteger v := by
    cases toInteger v <;> rfl
  rw [check, hbounds, scalar_eq_ok_iff]
  simp only [toInteger_eq_ok_iff]

theorem reads_iff (type : FieldType) (v w : Json) :
    type.Reads v w ↔ ∃ d, type.shape.check v = .ok d ∧ d.toJson = w := by
  have hkeeps (hshape : type.shape.verbatim = true) :
      (∃ d, type.shape.check v = .ok d ∧ d.toJson = w) ↔ type.shape.Admits v ∧ v = w := by
    constructor
    · rintro ⟨d, hd, rfl⟩
      exact ⟨⟨d, hd⟩, (check_keeps _ hshape v d hd).toJson.symm⟩
    · rintro ⟨⟨d, hd⟩, rfl⟩
      exact ⟨d, hd, (check_keeps _ hshape v d hd).toJson⟩
  cases type with
  | text =>
    rw [hkeeps rfl, shape, admits_text_iff]
    constructor
    · intro h
      cases h with
      | text s => exact ⟨⟨s, rfl⟩, rfl⟩
    · rintro ⟨⟨s, rfl⟩, rfl⟩
      exact .text s
  | texts =>
    rw [hkeeps rfl, shape, admits_list_iff]
    simp only [admits_text_iff]
    constructor
    · intro h
      cases h with
      | texts items => exact ⟨⟨_, rfl, by simp⟩, rfl⟩
    · rintro ⟨⟨items, rfl, hitems⟩, rfl⟩
      obtain ⟨texts, htexts⟩ := exists_strings hitems
      rw [htexts]
      exact .texts texts
  | table =>
    rw [hkeeps rfl, shape, admits_table_any_iff]
    constructor
    · intro h
      cases h with
      | table members => exact ⟨⟨members, rfl⟩, rfl⟩
    · rintro ⟨⟨members, rfl⟩, rfl⟩
      exact .table members
  | integer =>
    simp only [shape, check_integer_eq_ok_iff]
    constructor
    · intro h
      cases h with
      | @integer _ i hi => exact ⟨_, ⟨i, hi, rfl⟩, rfl⟩
    · rintro ⟨_, ⟨i, hi, rfl⟩, rfl⟩
      exact .integer hi

end FieldType

namespace Declaration

/-- A declared field takes a value, and holds a value then. -/
def Takes (d : Declaration) (v w : Json) : Prop :=
  d.type.Reads v w ∨ d.required = false ∧ v = .null ∧ w = .null

section

variable {d : Declaration} {members : List (String × Json)}

theorem takes_iff (d : Declaration) (v w : Json) :
    d.Takes v w ↔ ∃ read, d.field.2.1.check v = .ok read ∧ read.toJson = w := by
  rw [Takes, field]
  split
  next hrequired => simp [hrequired, Contract.required, FieldType.reads_iff]
  next hrequired =>
    cases v with
    | null =>
      -- Null is of no type, so a field takes it only because it is not required.
      have hnull : ¬d.type.Reads .null w := FieldType.not_reads_null
      simp [hnull, hrequired, Contract.nullable, check, Datum.toJson_plain, eq_comm]
    | bool | int | float | str | arr | obj => simp [Contract.nullable, check, FieldType.reads_iff]

/-- A declared field is read from a value that it takes, or is missing and null. -/
theorem fieldRead_cases {f : String × Bool × Datum} (h : FieldRead members d.field f) :
    (∃ v, Assoc.get? members d.name = some v ∧ d.Takes v f.2.2.toJson) ∨
      Assoc.get? members d.name = none ∧ f.2.2.toJson = .null := by
  rw [← d.field_name]
  generalize hfield : d.field = field at h
  cases h with
  | supplied hv hread =>
    refine .inl ⟨_, hv, (d.takes_iff _ _).mpr ⟨_, ?_, rfl⟩⟩
    rwa [hfield]
  | missing hv =>
    refine .inr ⟨hv, ?_⟩
    rw [Declaration.field] at hfield
    split at hfield
    · cases hfield
    · cases hfield
      rfl

theorem fieldAdmits_iff (d : Declaration) (members : List (String × Json)) :
    FieldAdmits d.field members ↔
      (d.required = true → d.name ∈ Assoc.keys members) ∧
        ∀ v, Assoc.get? members d.name = some v → ∃ w, d.Takes v w := by
  rw [FieldAdmits, d.field_name, Assoc.mem_keys_iff]
  cases hget : Assoc.get? members d.name with
  | some v => simp [takes_iff, Admits]
  | none =>
    by_cases hrequired : d.required = true <;>
      simp [field, hrequired, Contract.required, Contract.nullable]

end

end Declaration

/-- What a record of declared fields keeps of an object that it takes. -/
structure Retained (declared : List Declaration) (members out : List (String × Json)) : Prop where
  keys : Assoc.keys out = declared.map (·.name) ++
    (Assoc.keys members).filter fun k => k ∉ declared.map (·.name)
  nodup : (Assoc.keys members).Nodup → (Assoc.keys out).Nodup
  kept : ∀ k v, Assoc.get? members k = some v →
    (∀ d ∈ declared, d.name = k → d.type ≠ .integer) → Assoc.get? out k = some v
  converted : ∀ d ∈ declared, d.type = .integer → d.required = true →
    ∀ v, Assoc.get? members d.name = some v →
      ∃ i, LaxInteger v i ∧ Assoc.get? out d.name = some (.int i)
  absent : ∀ d ∈ declared, Assoc.get? members d.name = none → Assoc.get? out d.name = some .null

/-- How a record of declared fields treats an object. -/
structure Retains (record : Shape) (declared : List Declaration)
    (members : List (String × Json)) : Prop where
  accepted : ∀ dump, record.normalize (.obj members) = .ok dump →
    ∃ out, dump = .obj out ∧ Retained declared members out
  rejected : (∃ found, record.normalize (.obj members) = .error found) ↔
    (∃ d ∈ declared, d.required = true ∧ d.name ∉ Assoc.keys members) ∨
      ∃ d ∈ declared, ∃ v, Assoc.get? members d.name = some v ∧ ¬∃ w, d.Takes v w
  blamed : ∀ found, record.normalize (.obj members) = .error found → ∀ m ∈ found,
    m.fault ≠ .unexpected ∧ ∃ d ∈ declared, ∃ steps, m.path = d.name :: steps

section

variable {name : String} {declared : List Declaration} {members out : List (String × Json)}

/-- A record that keeps its members is written as its fields and after these the other members. -/
theorem exists_data
    (h : (record name .keep (declared.map Declaration.field)).normalize (.obj members) =
      .ok (.obj out)) :
    ∃ data : List (String × Bool × Datum), data.map (·.1) = declared.map (·.name) ∧
      out = Datum.members data ++ others (declared.map Declaration.field) members := by
  obtain ⟨d, hd, hout⟩ := map_eq_ok_iff.mp h
  obtain ⟨members', data, hmembers, hdata, -, rfl⟩ := check_record_eq_ok_iff.mp hd
  cases hmembers
  rw [Datum.toJson_record, members_append_kept] at hout
  exact ⟨data, by rw [checkFields_names hdata, map_field_names], (Json.obj.inj hout).symm⟩

theorem exists_read (hnames : (declared.map (·.name)).Nodup)
    (h : (record name .keep (declared.map Declaration.field)).normalize (.obj members) =
      .ok (.obj out)) {d : Declaration} (hd : d ∈ declared) :
    ∃ w, Assoc.get? out d.name = some w ∧
      ((∃ v, Assoc.get? members d.name = some v ∧ d.Takes v w) ∨
        Assoc.get? members d.name = none ∧ w = .null) := by
  obtain ⟨members', f, hmembers, hf, hout⟩ := member?_of_normalize h
    (by rwa [map_field_names]) (List.mem_map_of_mem hd)
  cases hmembers
  rw [d.field_name] at hout
  exact ⟨_, hout, Declaration.fieldRead_cases hf⟩

theorem retained_of_normalize (hnames : (declared.map (·.name)).Nodup)
    (h : (record name .keep (declared.map Declaration.field)).normalize (.obj members) =
      .ok (.obj out)) : Retained declared members out := by
  obtain ⟨data, hdata, hout⟩ := exists_data h
  have hfields : Assoc.keys (Datum.members data) = declared.map (·.name) := by
    rw [← hdata, Assoc.keys, Datum.members, List.map_map]
    rfl
  have hkeys : Assoc.keys out = declared.map (·.name) ++
      (Assoc.keys members).filter fun k => k ∉ declared.map (·.name) := by
    rw [hout, Assoc.keys, List.map_append]
    exact congrArg₂ _ hfields (keys_others declared members)
  refine ⟨hkeys, ?_, ?_, ?_, ?_⟩
  · intro hnodup
    rw [hkeys, List.nodup_append]
    refine ⟨hnames, hnodup.filter _, ?_⟩
    rintro k hk _ hother rfl
    simpa [hk] using (List.mem_filter.mp hother).2
  · intro k v hv htype
    by_cases hk : k ∈ declared.map (·.name)
    · obtain ⟨d, hd, rfl⟩ := List.mem_map.mp hk
      obtain ⟨w, hw, ⟨v', hv', htakes⟩ | ⟨hnone, -⟩⟩ := exists_read hnames h hd
      · cases hv.symm.trans hv'
        obtain hreads | ⟨-, rfl, rfl⟩ := htakes
        · rw [hw, hreads.eq_of_ne (htype d hd rfl)]
        · exact hw
      · cases hv.symm.trans hnone
    · have hk' : k ∉ Assoc.keys (Datum.members data) := by rwa [hfields]
      rw [hout, Assoc.get?_append, Assoc.get?_of_not_mem hk', Option.none_or,
        get?_others (by rwa [map_field_names]), hv]
  · intro d hd htype hrequired v hv
    obtain ⟨w, hw, ⟨v', hv', htakes⟩ | ⟨hnone, -⟩⟩ := exists_read hnames h hd
    · cases hv.symm.trans hv'
      obtain hreads | ⟨hoptional, -⟩ := htakes
      · rw [htype] at hreads
        cases hreads with
        | integer hi => exact ⟨_, hi, hw⟩
      · cases hrequired.symm.trans hoptional
    · cases hv.symm.trans hnone
  · intro d hd hnone
    obtain ⟨w, hw, ⟨v', hv', -⟩ | ⟨-, rfl⟩⟩ := exists_read hnames h hd
    · cases hv'.symm.trans hnone
    · exact hw

theorem normalize_isError_iff (shape : Shape) (v : Json) :
    (∃ found, shape.normalize v = .error found) ↔ ¬shape.Admits v := by
  rw [Shape.normalize, Admits]
  cases shape.check v <;> simp [Except.map]

theorem admits_declared_iff (name : String) (declared : List Declaration)
    (members : List (String × Json)) :
    Admits (record name .keep (declared.map Declaration.field)) (.obj members) ↔
      ∀ d ∈ declared, (d.required = true → d.name ∈ Assoc.keys members) ∧
        ∀ v, Assoc.get? members d.name = some v → ∃ w, d.Takes v w := by
  rw [admits_record_iff]
  simp only [Json.obj.injEq, exists_eq_left', List.forall_mem_map, Declaration.fieldAdmits_iff]
  simp

theorem retains_of_nodup (name : String) (hnames : (declared.map (·.name)).Nodup)
    (members : List (String × Json)) :
    Retains (record name .keep (declared.map Declaration.field)) declared members := by
  refine ⟨?_, ?_, ?_⟩
  · intro dump h
    obtain ⟨d, hd, rfl⟩ := map_eq_ok_iff.mp h
    obtain ⟨members', data, -, -, -, rfl⟩ := check_record_eq_ok_iff.mp hd
    rw [Datum.toJson_record] at h ⊢
    exact ⟨_, rfl, retained_of_normalize hnames h⟩
  · rw [normalize_isError_iff, admits_declared_iff]
    simp only [not_forall, not_and_or, exists_prop, and_or_left, exists_or]
  · intro found h m hm
    have hfound : found = misfits
        (Shape.normalize (record name .keep (declared.map Declaration.field)) (.obj members)) := by
      rw [h]
      rfl
    rw [Shape.normalize, misfits_map, misfits_check_record, refused, List.map_nil, List.append_nil]
      at hfound
    rw [hfound] at hm
    refine ⟨fieldMisfits_tolerated _ (tolerantFields_declared declared) members m hm, ?_⟩
    obtain ⟨field, hfield, hmem⟩ := List.mem_flatMap.mp hm
    obtain ⟨d, hd, rfl⟩ := List.mem_map.mp hfield
    obtain ⟨steps, hpath⟩ := path_of_mem_fieldMisfits hmem
    exact ⟨d, hd, steps, by rw [hpath, d.field_name]⟩

end

end Client

/-! ## Keys -/

namespace Keyed

theorem members_ofMembers (members : List (String × Json)) :
    (ofMembers members).members = members := by
  induction members with
  | nil => rfl
  | cons m rest ih => exact congrArg (m :: ·) ih

theorem any_isBroken_iff (object : Keyed) :
    object.any isBroken = true ↔ ∃ codes v, (.broken codes, v) ∈ object := by
  rw [List.any_eq_true]
  constructor
  · rintro ⟨⟨key, v⟩, hm, hbroken⟩
    cases key with
    | text key => cases hbroken
    | broken codes => exact ⟨codes, v, hm⟩
  · rintro ⟨codes, v, hm⟩
    exact ⟨_, hm, rfl⟩

/-- The keys of an object are all text unless one is broken. -/
theorem exists_members_iff (object : Keyed) :
    (∃ members, object = ofMembers members) ↔ ∀ codes v, (.broken codes, v) ∉ object := by
  constructor
  · rintro ⟨members, rfl⟩ codes v hm
    obtain ⟨m, -, hm⟩ := List.mem_map.mp hm
    cases hm
  · intro h
    induction object with
    | nil => exact ⟨[], rfl⟩
    | cons m rest ih =>
      obtain ⟨members, rfl⟩ := ih fun codes v hm => h codes v (.tail _ hm)
      obtain ⟨key, v⟩ := m
      cases key with
      | text key => exact ⟨(key, v) :: members, rfl⟩
      | broken codes => exact absurd (.head _) (h codes v)

end Keyed

namespace Shape

variable [Platform]

/-- An object whose keys are text is read as one. -/
theorem checkKeyed_ofMembers (shape : Shape) (members : List (String × Json)) :
    shape.checkKeyed (.ofMembers members) = shape.check (.obj members) := by
  have hwhole : (Keyed.ofMembers members).any Keyed.isBroken = false := by
    rw [Keyed.ofMembers, List.any_map, List.any_eq_false]
    exact fun m _ => Bool.false_ne_true
  rw [checkKeyed, hwhole, Bool.and_false, if_neg Bool.false_ne_true, Keyed.members_ofMembers]

theorem checkKeyed_of_broken {shape : Shape} (hlooks : shape.looksAtKeys = true) {object : Keyed}
    {codes : List Nat} {v : Json} (h : (.broken codes, v) ∈ object) :
    shape.checkKeyed object = .error [⟨[], .brokenText⟩] := by
  have hbroken := object.any_isBroken_iff.mpr ⟨codes, v, h⟩
  rw [checkKeyed, hlooks, hbroken]
  rfl

end Shape

namespace Client

section

variable [Platform]

/-- How a record of declared fields treats an object under any keys.  A key that is no text is
refused before anything else is said of the object. -/
structure Keeps (record : Shape) (declared : List Declaration) (object : Keyed) : Prop where
  forms : (∃ members, object = .ofMembers members) ↔ ∀ codes v, (.broken codes, v) ∉ object
  retains : ∀ members, object = .ofMembers members →
    (record.checkKeyed object).map Datum.toJson = record.normalize (.obj members) ∧
      Retains record declared members
  broken : ∀ codes v, (.broken codes, v) ∈ object →
    record.checkKeyed object = .error [⟨[], .brokenText⟩]

theorem keeps_of_nodup (name : String) {declared : List Declaration}
    (hnames : (declared.map (·.name)).Nodup) (object : Keyed) :
    Keeps (record name .keep (declared.map Declaration.field)) declared object where
  forms := object.exists_members_iff
  retains := by
    rintro members rfl
    rw [checkKeyed_ofMembers]
    exact ⟨rfl, retains_of_nodup name hnames members⟩
  broken _ _ := checkKeyed_of_broken rfl

/-- Models and assets lose nothing but the form of a size. -/
theorem model_asset_retain (object : Keyed) :
    Keeps model modelFields object ∧ Keeps asset assetFields object := by
  rw [model_eq, asset_eq]
  exact ⟨keeps_of_nodup "Model" (by decide) object, keeps_of_nodup "Asset" (by decide) object⟩

end

open scoped Platform

/-- The size becomes an integer, the metadata are null, and the owner is kept at the end. -/
example : asset.normalize
    (.obj [("size", .str " 1_0.0"), ("owner", .obj [("id", .null)]), ("id", .str "a"),
      ("model_id", .str "m"), ("name", .str "n"), ("version", .str "1"),
      ("content_type", .str "c"), ("checksum", .str "s"), ("storage_path", .str "p"),
      ("created_at", .str "t")]) =
    .ok (.obj [("id", .str "a"), ("model_id", .str "m"), ("name", .str "n"),
      ("version", .str "1"), ("content_type", .str "c"), ("size", .int 10), ("checksum", .str "s"),
      ("storage_path", .str "p"), ("created_at", .str "t"), ("metadata", .null),
      ("owner", .obj [("id", .null)])]) := rfl

/-- A model is rejected for a key that is no declared field, if that key is no text. -/
theorem model_not_retained :
    ¬∀ object : Keyed, (∃ found, model.checkKeyed object = .error found) →
      (∃ d ∈ modelFields, d.required = true ∧ d.name ∉ Assoc.keys object.members) ∨
        ∃ d ∈ modelFields, ∃ v, Assoc.get? object.members d.name = some v ∧ ¬∃ w, d.Takes v w := by
  intro h
  let object : Keyed :=
    [(.text "id", .str "m"), (.text "name", .str "n"), (.text "version", .str "1"),
      (.text "created_at", .str "t"), (.text "updated_at", .str "t"),
      (.broken [0xD800], .int 1)]
  have hretains : Retains model modelFields object.members := by
    rw [model_eq]
    exact retains_of_nodup "Model" (by decide) object.members
  obtain ⟨found, hfound⟩ := hretains.rejected.mpr (h object ⟨_, rfl⟩)
  cases hfound

end Client

end RegistryGateway
