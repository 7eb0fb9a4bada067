import RegistryGateway.Proofs.Delivery
import RegistryGateway.Proofs.Unwrapping

/-! The items that are listed.  An operation that lists returns the items of the list that a payload
is, each in normal form, or none for null.  It returns none as well for what counts as nothing
without being null or a list, and fails on every other payload. -/

namespace RegistryGateway.Client

/-- The operations that list, and the shape of what they list. -/
inductive Operation.Lists : Operation → Shape → Prop
  | models (filters : Option SearchFilters) : Lists (.listModels filters) model
  | search (filters : SearchFilters) : Lists (.searchModels filters) model
  | assets (modelId : String) : Lists (.listAssets modelId) asset

theorem Operation.Lists.expected {op : Operation} {shape : Shape} (h : op.Lists shape) :
    op.expected = .items shape := by
  cases h <;> rfl

theorem Operation.Lists.record {op : Operation} {shape : Shape} (h : op.Lists shape) :
    ∃ name extras fields, shape = .record name extras fields := by
  cases h <;> exact ⟨_, _, _, rfl⟩

/-- What counts as nothing without being null or a list. -/
inductive Hollow : Json → Prop
  | flag : Hollow (.bool false)
  | zero : Hollow (.int 0)
  | real {d : Double} : d.isZero = true → Hollow (.float d)
  | text : Hollow (.str "")
  | object : Hollow (.obj [])

theorem countsAsNothing_iff (d : Json) :
    countsAsNothing d = true ↔ d = .null ∨ d = .arr [] ∨ Hollow d := by
  constructor
  · intro h
    rw [countsAsNothing.eq_def] at h
    split at h
    · exact .inl rfl
    · exact .inr (.inr .flag)
    · exact .inr (.inr .text)
    · exact .inr (.inl rfl)
    · exact .inr (.inr .object)
    next n =>
      obtain rfl := of_decide_eq_true h
      exact .inr (.inr .zero)
    · exact .inr (.inr (.real h))
    · cases h
  · rintro (rfl | rfl | h)
    · rfl
    · rfl
    · cases h with
      | flag | zero | text | object => rfl
      | real h => exact h

/-- What does not count as nothing has items only if it is a list, a text or an object, and those of
a text or an object are texts. -/
theorem itemsOf_cases {d : Json} (h : ¬countsAsNothing d = true) :
    (∃ vs, d = .arr vs ∧ itemsOf d = .ok vs) ∨
      (∃ texts, texts ≠ [] ∧ (∀ v ∈ texts, ∃ s, v = .str s) ∧ (∀ vs, d ≠ .arr vs) ∧
        itemsOf d = .ok texts) ∨
      (∀ vs, d ≠ .arr vs) ∧ ∃ kind, itemsOf d = .error (.notItems kind) := by
  rw [itemsOf.eq_def, if_neg h]
  cases d with
  | arr vs => exact .inl ⟨vs, rfl, rfl⟩
  | str s =>
    refine .inr (.inl ⟨_, fun hnil => h ?_, fun v hv => ?_, nofun, rfl⟩)
    · rw [String.toList_eq_nil_iff.mp (List.map_eq_nil_iff.mp hnil)]
      rfl
    · obtain ⟨c, -, rfl⟩ := List.mem_map.mp hv
      exact ⟨_, rfl⟩
  | obj members =>
    refine .inr (.inl ⟨_, fun hnil => h ?_, fun v hv => ?_, nofun, rfl⟩)
    · rw [List.map_eq_nil_iff.mp hnil]
      rfl
    · obtain ⟨m, -, rfl⟩ := List.mem_map.mp hv
      exact ⟨_, rfl⟩
  | null | bool | int | float => exact .inr (.inr ⟨nofun, _, rfl⟩)

section

variable [Platform]

/-- The items that a payload lists. -/
inductive Listed (shape : Shape) : Json → List Json → Prop
  | null : Listed shape .null []
  | list {vs items : List Json} :
      List.Forall₂ (fun v item => shape.normalize v = .ok item) vs items →
      Listed shape (.arr vs) items

theorem readItems_eq_ok_iff (shape : Shape) (vs items : List Json) :
    readItems shape vs = .ok items ↔
      List.Forall₂ (fun v item => shape.normalize v = .ok item) vs items := by
  induction vs generalizing items with
  | nil => simp [readItems, eq_comm]
  | cons v rest ih =>
    rw [List.forall₂_cons_left_iff]
    cases hv : shape.normalize v with
    | error misfits => simp [readItems, hv]
    | ok item =>
      cases hrest : readItems shape rest with
      | error e => simp [readItems, hv, hrest, ← ih]
      | ok more =>
        have hread : readItems shape (v :: rest) = .ok (item :: more) := by
          simp only [readItems, hv, hrest]
        simp only [hread, ← ih, hrest, Except.ok.injEq]
        constructor
        · rintro rfl
          exact ⟨item, more, rfl, rfl, rfl⟩
        · rintro ⟨_, _, rfl, rfl, rfl⟩
          rfl

section

variable {name : String} {extras : Extras} {fields : List (String × Shape × Option Json)}

/-- Texts are no records. -/
theorem readItems_texts {texts : List Json} (hne : texts ≠ [])
    (htexts : ∀ v ∈ texts, ∃ s, v = .str s) :
    ∃ e, readItems (.record name extras fields) texts = .error e := by
  obtain ⟨first, rest, rfl⟩ := List.exists_cons_of_ne_nil hne
  obtain ⟨s, rfl⟩ := htexts first List.mem_cons_self
  exact ⟨.misfit [⟨[], .notRecord name⟩], rfl⟩

theorem read_items_of_itemsOf {shape : Shape} {d w : Json} {vs : List Json}
    (h : itemsOf d = .ok vs) :
    (Expected.items shape).read d = .ok w ↔
      ∃ items, w = .arr items ∧ readItems shape vs = .ok items := by
  simp only [Expected.read, h]
  cases readItems shape vs <;> simp [Except.map, eq_comm]

/-- What counts as nothing lists nothing, if anything at all. -/
theorem listed_of_nothing (shape : Shape) {d : Json} (h : countsAsNothing d = true)
    (items : List Json) : Listed shape d items ∨ Hollow d ∧ items = [] ↔ items = [] := by
  constructor
  · rintro (hlisted | ⟨-, rfl⟩)
    · cases hlisted with
      | null => rfl
      | list hitems =>
        obtain h | h | h := (countsAsNothing_iff _).mp h
        · cases h
        · obtain rfl := Json.arr.inj h
          exact List.forall₂_nil_left_iff.mp hitems
        · cases h
    · rfl
  · rintro rfl
    obtain rfl | rfl | hhollow := (countsAsNothing_iff d).mp h
    · exact .inl .null
    · exact .inl (.list .nil)
    · exact .inr ⟨hhollow, rfl⟩

/-- Only a list lists something. -/
theorem not_listed {shape : Shape} {d : Json} (h : ¬countsAsNothing d = true)
    (hlist : ∀ vs, d ≠ .arr vs) (items : List Json) :
    ¬(Listed shape d items ∨ Hollow d ∧ items = []) := by
  rintro ((_ | _) | ⟨hhollow, -⟩)
  · exact h rfl
  · exact hlist _ rfl
  · exact h ((countsAsNothing_iff d).mpr (.inr (.inr hhollow)))

/-- Records are read from null, from what counts as nothing, and from a list of values that are all
such records, and from nothing else. -/
theorem read_items_eq_ok_iff (d w : Json) :
    (Expected.items (.record name extras fields)).read d = .ok w ↔
      ∃ items, w = .arr items ∧
        (Listed (.record name extras fields) d items ∨ Hollow d ∧ items = []) := by
  by_cases hnothing : countsAsNothing d = true
  · have hitems : itemsOf d = .ok [] := by rw [itemsOf.eq_def, if_pos hnothing]
    rw [read_items_of_itemsOf hitems]
    simp only [listed_of_nothing _ hnothing, readItems, Except.ok.injEq, eq_comm]
  · obtain ⟨vs, rfl, hitems⟩ | ⟨texts, hne, htexts, hlist, hitems⟩ | ⟨hlist, kind, hitems⟩ :=
      itemsOf_cases hnothing
    · rw [read_items_of_itemsOf hitems]
      refine exists_congr fun items => and_congr_right fun _ => ?_
      rw [readItems_eq_ok_iff]
      constructor
      · exact fun h => .inl (.list h)
      · rintro (hlisted | ⟨⟨⟩, -⟩)
        cases hlisted with
        | list hitems => exact hitems
    · obtain ⟨e, he⟩ : ∃ e, readItems (.record name extras fields) texts = .error e :=
        readItems_texts hne htexts
      simp [read_items_of_itemsOf hitems, he, not_listed hnothing hlist]
    · simp [Expected.read, hitems, not_listed hnothing hlist]

theorem taken_items_eq_ok_iff (d : Json) (result : Result) :
    Session.taken (.items (.record name extras fields)) d = .ok result ↔ ∃ items,
      result = .value (.arr items) ∧
        (Listed (.record name extras fields) d items ∨ Hollow d ∧ items = []) := by
  rw [Session.taken_eq_ok_iff]
  constructor
  · rintro ⟨w, hw, rfl⟩
    obtain ⟨items, rfl, hitems⟩ := (read_items_eq_ok_iff d w).mp hw
    exact ⟨items, rfl, hitems⟩
  · rintro ⟨items, rfl, hitems⟩
    exact ⟨.arr items, (read_items_eq_ok_iff d _).mpr ⟨items, rfl, hitems⟩, rfl⟩

end

namespace Session

/-- How an operation that lists records ends on a reply that carries a payload. -/
structure Enumerates (s : Session) (op : Operation) (shape : Shape) (request : Request)
    (r : Reply) (d : Json) : Prop where
  /-- Over a base with a scheme the reply is kept. -/
  kept : s.base.scheme ≠ [] → request.target.namesScheme = true
  /-- A reply that is kept gives what the payload lists, or nothing where the payload counts as
  nothing, and no other result. -/
  returns : request.target.namesScheme = true → ∀ result,
    (s.perform op (.reply r)).result = .ok result ↔
      ∃ items, result = .value (.arr items) ∧ (Listed shape d items ∨ Hollow d ∧ items = [])
  fails : request.target.namesScheme = true → (∀ items, ¬Listed shape d items) → ¬Hollow d →
    ∃ fault, (s.perform op (.reply r)).result = .error (.payload fault)
  lost : request.target.namesScheme = false →
    ∃ message, (s.perform op (.reply r)).result = .error (.connection "ValueError" message)

theorem taken_of_ne_ok {expected : Expected} {d : Json}
    (h : ∀ result, taken expected d ≠ .ok result) :
    ∃ fault, taken expected d = .error (.payload fault) := by
  rw [taken] at h ⊢
  cases hread : expected.read d with
  | error fault => exact ⟨fault, rfl⟩
  | ok v =>
    rw [hread] at h
    exact absurd rfl (h (.value v))

end Session

end

namespace Session

open scoped Platform

/-- A model with a member of its own and without the fields that may be null. -/
def modelRecord (id : String) : Json :=
  .obj [("stars", .int 3), ("version", .str "1"), ("id", .str id), ("name", .str "m"),
    ("updated_at", .str "t"), ("created_at", .str "t")]

def modelNormal (id : String) : Json :=
  .obj [("id", .str id), ("name", .str "m"), ("version", .str "1"), ("description", .null),
    ("provider", .null), ("created_at", .str "t"), ("updated_at", .str "t"), ("tags", .null),
    ("metadata", .null), ("stars", .int 3)]

def modelsPage : List (String × Json) :=
  [("items", .arr [modelRecord "m-2", modelRecord "m-1"]), ("execution", .null)]

/-- The text `false`. -/
def falseBody : Bytes := [0x66, 0x61, 0x6C, 0x73, 0x65]

end Session

end RegistryGateway.Client
