import RegistryGateway.Catalogue
import RegistryGateway.Platform.Standard
import RegistryGateway.Proofs.Admission

/-! The normal form of a value.  What a value is read as is written out again; a shape whose fields
have different names, and whose defaults are in normal form themselves, reads what it wrote as it
wrote it.  Every record of the gateway and of its client is such a shape, so reading a value and
writing it out twice is the same as doing it once. -/

namespace RegistryGateway

namespace Datum

/-- The members that the fields of a record are written as. -/
def members (fields : List (String × Bool × Datum)) : List (String × Json) :=
  fields.map fun f => (f.1, f.2.2.toJson)

theorem writeItems_all (items : List Datum) : writeItems .all items = items.map toJson := by
  induction items with
  | nil => rfl
  | cons d rest ih => simp only [writeItems, List.map_cons, ih, toJson]

theorem writeEntries_all (entries : List (String × Datum)) :
    writeEntries .all entries = entries.map fun e => (e.1, e.2.toJson) := by
  induction entries with
  | nil => rfl
  | cons e rest ih => simp only [writeEntries, List.map_cons, ih, toJson]

theorem writeFields_all (fields : List (String × Bool × Datum)) :
    writeFields .all fields = members fields := by
  induction fields with
  | nil => rfl
  | cons f rest ih =>
    simp only [writeFields, Selection.all, Bool.true_or, Bool.and_self, ↓reduceIte] at ih ⊢
    rw [ih]
    rfl

theorem toJson_plain (v : Json) : (plain v).toJson = v := rfl

theorem toJson_list (items : List Datum) : (list items).toJson = .arr (items.map toJson) := by
  rw [toJson, write, writeItems_all]

theorem toJson_table (entries : List (String × Datum)) :
    (table entries).toJson = .obj (entries.map fun e => (e.1, e.2.toJson)) := by
  rw [toJson, write, writeEntries_all]

theorem toJson_record (fields : List (String × Bool × Datum)) :
    (record fields).toJson = .obj (members fields) := by
  rw [toJson, write, writeFields_all]

end Datum

namespace Shape

/-- A value is in normal form when it is read as something that is written in the same way. -/
def Normal [Platform] (shape : Shape) (v : Json) : Prop := ∃ d, shape.check v = .ok d ∧ d.toJson = v

theorem normal_iff [Platform] (shape : Shape) (v : Json) :
    shape.Normal v ↔ shape.normalize v = .ok v := by
  cases h : shape.check v <;> simp [Normal, normalize, h, Except.map]

/-- Whether a value is what a shape is written as when nothing was supplied: null, something empty,
or a number within the bounds. -/
def isBlank : Shape → Json → Bool
  | .any, _ | .optional _, .null | .list _, .arr [] | .table _, .obj [] => true
  | .integer bounds, .int i => bounds.all (Bound.allowsInteger i)
  | .real bounds, .float d => bounds.all (Bound.allowsReal d)
  | _, _ => false

mutual

/-- Whether the fields of every record in a shape have different names and blank defaults. -/
def consistent : Shape → Bool
  | .list item => consistent item
  | .table entry => consistent entry
  | .optional inner => consistent inner
  | .record _ _ fields => (fields.map (·.1)).Nodup && consistentFields fields
  | _ => true

def consistentFields : List (String × Shape × Option Json) → Bool
  | [] => true
  | (_, shape, default) :: rest =>
    consistent shape && default.all (isBlank shape) && consistentFields rest

end

theorem map_eq_ok_iff {α β : Type} {f : α → β} {r : Except (List Misfit) α} {b : β} :
    r.map f = .ok b ↔ ∃ a, r = .ok a ∧ f a = b := by
  cases r <;> simp [Except.map]

theorem both_eq_ok_iff {α : Type} {first : Except (List Misfit) α}
    {rest : Except (List Misfit) (List α)} {all : List α} :
    both first rest = .ok all ↔ ∃ a more, first = .ok a ∧ rest = .ok more ∧ all = a :: more := by
  cases first <;> cases rest <;> simp [both, eq_comm]

/-! ### Scalars -/

theorem scalar_eq_ok_iff {α : Type} {make : α → Json} {r : Except Fault α} {d : Datum} :
    scalar make r = .ok d ↔ ∃ a, r = .ok a ∧ d = .plain (make a) := by
  cases r <;> simp [scalar, fail, eq_comm]

theorem bind_within_eq_ok_iff {α : Type} {allows : α → Bound → Bool} {bounds : List Bound}
    {r : Except Fault α} {a : α} :
    (r.bind fun a => within (allows a) bounds a) = .ok a ↔
      r = .ok a ∧ within (allows a) bounds a = .ok a := by
  have hwithin (b : α) : within (allows b) bounds b = .ok a → b = a := by
    rw [within]
    split
    · intro h
      cases h
    · rintro ⟨⟩
      rfl
  cases r with
  | error fault => simp [Except.bind]
  | ok b =>
    simp only [Except.bind, Except.ok.injEq]
    constructor
    · intro h
      obtain rfl := hwithin b h
      exact ⟨rfl, h⟩
    · rintro ⟨rfl, h⟩
      exact h

theorem within_of_all {α : Type} {allows : Bound → Bool} {bounds : List Bound}
    (h : bounds.all allows = true) (a : α) : within allows bounds a = .ok a := by
  have hnone : bounds.find? (fun b => !allows b) = none := by simpa using h
  rw [within, hnone]

section

variable [Platform]

theorem normal_of_isBlank {shape : Shape} {v : Json} (h : isBlank shape v = true) :
    shape.Normal v := by
  rw [isBlank.eq_def] at h
  split at h
  · exact ⟨_, rfl, rfl⟩
  · exact ⟨_, rfl, rfl⟩
  · exact ⟨_, rfl, rfl⟩
  · exact ⟨_, rfl, rfl⟩
  next bounds i =>
    exact ⟨.plain (.int i), by simp only [check, toInteger, Except.bind, within_of_all h, scalar],
      rfl⟩
  next bounds d =>
    exact ⟨.plain (.float d), by simp only [check, toReal, Except.bind, within_of_all h, scalar],
      rfl⟩
  · cases h

theorem integer_normal {bounds : List Bound} {v : Json} {d : Datum}
    (h : check (.integer bounds) v = .ok d) : Normal (.integer bounds) d.toJson := by
  simp only [check] at h
  obtain ⟨i, hi, rfl⟩ := scalar_eq_ok_iff.mp h
  obtain ⟨-, hbounds⟩ := bind_within_eq_ok_iff.mp hi
  rw [Datum.toJson_plain]
  exact ⟨.plain (.int i), by simp only [check, toInteger, Except.bind, hbounds, scalar], rfl⟩

theorem real_normal {bounds : List Bound} {v : Json} {d : Datum}
    (h : check (.real bounds) v = .ok d) : Normal (.real bounds) d.toJson := by
  simp only [check] at h
  obtain ⟨x, hx, rfl⟩ := scalar_eq_ok_iff.mp h
  obtain ⟨-, hbounds⟩ := bind_within_eq_ok_iff.mp hx
  rw [Datum.toJson_plain]
  exact ⟨.plain (.float x), by simp only [check, toReal, Except.bind, hbounds, scalar], rfl⟩

theorem flag_normal {v : Json} {d : Datum} (h : check .flag v = .ok d) : Normal .flag d.toJson := by
  simp only [check] at h
  obtain ⟨b, -, rfl⟩ := scalar_eq_ok_iff.mp h
  exact ⟨_, rfl, rfl⟩

/-- A number is an integer or a double, and stays what it is. -/
theorem number_normal {v : Json} {d : Datum} (h : check .number v = .ok d) :
    Normal .number d.toJson := by
  have hinteger (i : Int) : Normal .number (.int i) := ⟨_, rfl, rfl⟩
  have hreal (x : Double) : Normal .number (.float x) := ⟨_, rfl, rfl⟩
  simp only [check] at h
  cases v with
  | int i =>
    cases h
    exact hinteger i
  | float x =>
    cases h
    exact hreal x
  | null | bool | str | arr | obj =>
    simp only [checkNumber] at h
    split at h
    · cases h
      exact hinteger _
    · split at h
      · cases h
        exact hreal _
      · cases h

theorem choice_normal {named : Bool} {options : List String} {v : Json} {d : Datum}
    (h : check (.choice named options) v = .ok d) : Normal (.choice named options) d.toJson := by
  cases v with
  | str s =>
    have hread := h
    simp only [check] at h
    split at h
    · cases h
      exact ⟨_, hread, rfl⟩
    · cases h
  | null | bool | int | float | arr | obj => cases h

end

/-! ### Lists, tables and records -/

/-- Items that were read are read again as they are written. -/
theorem checkItems_again {item : Json → Reading}
    (hitem : ∀ v d, item v = .ok d → ∃ d', item d.toJson = .ok d' ∧ d'.toJson = d.toJson)
    {position : Nat} {items : List Json} {data : List Datum}
    (h : checkItems item position items = .ok data) :
    ∃ data', checkItems item position (data.map Datum.toJson) = .ok data' ∧
      data'.map Datum.toJson = data.map Datum.toJson := by
  induction items generalizing position data with
  | nil =>
    cases h
    exact ⟨[], rfl, rfl⟩
  | cons v rest ih =>
    obtain ⟨d, more, hd, hmore, rfl⟩ := both_eq_ok_iff.mp h
    obtain ⟨d', hd', hwritten⟩ := hitem v d ((under_isOk_iff _ _ _).mp hd)
    obtain ⟨more', hmore', hrest⟩ := ih hmore
    refine ⟨d' :: more', ?_, ?_⟩
    · rw [List.map_cons, checkItems, hmore']
      exact both_eq_ok_iff.mpr ⟨_, _, (under_isOk_iff _ _ _).mpr hd', rfl, rfl⟩
    · rw [List.map_cons, List.map_cons, hwritten, hrest]

/-- So are entries, under the same keys. -/
theorem checkEntries_again {entry : Json → Reading}
    (hentry : ∀ v d, entry v = .ok d → ∃ d', entry d.toJson = .ok d' ∧ d'.toJson = d.toJson)
    {members : List (String × Json)} {data : List (String × Datum)}
    (h : checkEntries entry members = .ok data) :
    ∃ data', checkEntries entry (data.map fun e => (e.1, e.2.toJson)) = .ok data' ∧
      (data'.map fun e => (e.1, e.2.toJson)) = data.map fun e => (e.1, e.2.toJson) := by
  induction members generalizing data with
  | nil =>
    cases h
    exact ⟨[], rfl, rfl⟩
  | cons m rest ih =>
    obtain ⟨k, v⟩ := m
    obtain ⟨e, more, he, hmore, rfl⟩ := both_eq_ok_iff.mp h
    obtain ⟨more', hmore', hrest⟩ := ih hmore
    cases hv : entry v with
    | error misfits =>
      rw [hv] at he
      cases he
    | ok d =>
      rw [hv] at he
      cases he
      obtain ⟨d', hd', hwritten⟩ := hentry v d hv
      refine ⟨(k, d') :: more', ?_, ?_⟩
      · rw [List.map_cons, checkEntries, hmore', hd']
        rfl
      · rw [List.map_cons, List.map_cons, hwritten, hrest]

theorem get?_members {data : List (String × Bool × Datum)} (h : (data.map (·.1)).Nodup)
    {f : String × Bool × Datum} (hf : f ∈ data) :
    Assoc.get? (Datum.members data) f.1 = some f.2.2.toJson := by
  induction data with
  | nil => cases hf
  | cons g rest ih =>
    rw [List.map_cons, List.nodup_cons] at h
    rw [Datum.members, List.map_cons, Assoc.get?_cons]
    rcases List.mem_cons.mp hf with rfl | hf
    · rw [if_pos rfl]
    · have hne : g.1 ≠ f.1 := fun he => h.1 (he ▸ List.mem_map_of_mem hf)
      rw [if_neg hne]
      exact ih h.2 hf

/-- The members of an object that are none of the fields. -/
def others (fields : List (String × Shape × Option Json)) (members : List (String × Json)) :
    List (String × Json) :=
  members.filter fun m => !fields.any (·.1 = m.1)

/-- The members that a record keeps beside its fields. -/
def kept (extras : Extras) (fields : List (String × Shape × Option Json))
    (members : List (String × Json)) : List (String × Json) :=
  match extras with
  | .keep => others fields members
  | .ignore | .refuse => []

theorem others_append (fields : List (String × Shape × Option Json))
    (first second : List (String × Json)) :
    others fields (first ++ second) = others fields first ++ others fields second :=
  List.filter_append _ _

theorem others_others (fields : List (String × Shape × Option Json))
    (members : List (String × Json)) :
    others fields (others fields members) = others fields members := by
  simp [others]

/-- The members that the fields are written as are no others. -/
theorem others_members {fields : List (String × Shape × Option Json)}
    {data : List (String × Bool × Datum)} (h : data.map (·.1) = fields.map (·.1)) :
    others fields (Datum.members data) = [] := by
  rw [others, List.filter_eq_nil_iff]
  intro m hm
  obtain ⟨f, hf, rfl⟩ := List.mem_map.mp hm
  have hname : f.1 ∈ fields.map (·.1) := h ▸ List.mem_map_of_mem hf
  simpa using hname

theorem members_append_kept (data : List (String × Bool × Datum))
    (members : List (String × Json)) :
    Datum.members (data ++ members.map fun m => (m.1, true, .plain m.2)) =
      Datum.members data ++ members := by
  simp [Datum.members, Datum.toJson_plain, Function.comp_def]

/-- Of the members that a record is written as, those it kept are the others. -/
theorem others_again {fields : List (String × Shape × Option Json)}
    {data : List (String × Bool × Datum)} (h : data.map (·.1) = fields.map (·.1))
    (extras : Extras) (members : List (String × Json)) :
    others fields (Datum.members data ++ kept extras fields members) =
      kept extras fields members := by
  rw [others_append, others_members h, List.nil_append]
  cases extras with
  | keep => exact others_others fields members
  | ignore | refuse => rfl

theorem kept_again {fields : List (String × Shape × Option Json)}
    {data : List (String × Bool × Datum)} (h : data.map (·.1) = fields.map (·.1))
    (extras : Extras) (members : List (String × Json)) :
    kept extras fields (Datum.members data ++ kept extras fields members) =
      kept extras fields members := by
  cases extras with
  | keep => exact others_again h .keep members
  | ignore | refuse => rfl

variable [Platform]

/-- A field is read from the member of its name or, when there is none, from its default. -/
inductive FieldRead (members : List (String × Json)) :
    String × Shape × Option Json → String × Bool × Datum → Prop
  | supplied {name : String} {shape : Shape} {default : Option Json} {v : Json} {d : Datum} :
      Assoc.get? members name = some v → shape.check v = .ok d →
      FieldRead members (name, shape, default) (name, true, d)
  | missing {name : String} {shape : Shape} {v : Json} :
      Assoc.get? members name = none →
      FieldRead members (name, shape, some v) (name, false, .plain v)

theorem checkFields_cons_eq_ok_iff {field : String × Shape × Option Json}
    {fields : List (String × Shape × Option Json)} {members : List (String × Json)}
    {data : List (String × Bool × Datum)} :
    checkFields (field :: fields) members = .ok data ↔
      ∃ f more, FieldRead members field f ∧ checkFields fields members = .ok more ∧
        data = f :: more := by
  obtain ⟨name, shape, default⟩ := field
  constructor
  · intro h
    cases hv : Assoc.get? members name with
    | some v =>
      simp only [checkFields, hv] at h
      obtain ⟨f, more, hf, hmore, rfl⟩ := both_eq_ok_iff.mp h
      cases hd : shape.check v with
      | error misfits =>
        rw [hd] at hf
        cases hf
      | ok d =>
        rw [hd] at hf
        cases hf
        exact ⟨_, more, .supplied hv hd, hmore, rfl⟩
    | none =>
      cases default with
      | some v =>
        simp only [checkFields, hv] at h
        obtain ⟨f, more, hf, hmore, rfl⟩ := both_eq_ok_iff.mp h
        cases hf
        exact ⟨_, more, .missing hv, hmore, rfl⟩
      | none =>
        simp only [checkFields, hv] at h
        obtain ⟨f, more, hf, -⟩ := both_eq_ok_iff.mp h
        cases hf
  · rintro ⟨f, more, hf, hmore, rfl⟩
    cases hf with
    | supplied hv hd => simp only [checkFields, hv, hd, under, hmore, both]
    | missing hv => simp only [checkFields, hv, hmore, both]

/-- The data of fields bear the names of the fields. -/
theorem checkFields_names {fields : List (String × Shape × Option Json)}
    {members : List (String × Json)} {data : List (String × Bool × Datum)}
    (h : checkFields fields members = .ok data) : data.map (·.1) = fields.map (·.1) := by
  induction fields generalizing data with
  | nil =>
    cases h
    rfl
  | cons field rest ih =>
    obtain ⟨f, more, hf, hmore, rfl⟩ := checkFields_cons_eq_ok_iff.mp h
    rw [List.map_cons, List.map_cons, ih hmore]
    cases hf <;> rfl

/-- A record is read from its fields, with the members that it keeps. -/
theorem check_record_eq_ok_iff {name : String} {extras : Extras}
    {fields : List (String × Shape × Option Json)} {v : Json} {d : Datum} :
    check (.record name extras fields) v = .ok d ↔
      ∃ members data, v = .obj members ∧ checkFields fields members = .ok data ∧
        (extras = .refuse → others fields members = []) ∧
        .record (data ++ (kept extras fields members).map fun m => (m.1, true, .plain m.2)) = d := by
  cases v with
  | obj members =>
    simp only [Json.obj.injEq, exists_and_left, exists_eq_left']
    cases hdata : checkFields fields members with
    | error misfits => cases extras <;> simp [check, hdata]
    | ok data =>
      cases extras with
      | ignore | keep => simp [check, hdata, kept, others]
      | refuse =>
        by_cases h : others fields members = []
        · have hempty := h
          rw [others] at hempty
          simp [check, hdata, kept, h, hempty]
        · have hempty := h
          rw [others] at hempty
          simp [check, hdata, kept, h, hempty]
  | null | bool | int | float | str | arr => simp [check, fail]

mutual

/-- What a consistent shape reads, it writes in normal form. -/
theorem check_normal : (shape : Shape) → shape.consistent = true → ∀ v d, shape.check v = .ok d →
    shape.Normal d.toJson
  | .any, _, _, _, h => by
    cases h
    exact ⟨_, rfl, rfl⟩
  | .text, _, v, _, h => by
    cases v with
    | str s =>
      cases h
      exact ⟨_, rfl, rfl⟩
    | null | bool | int | float | arr | obj => cases h
  | .integer _, _, _, _, h => integer_normal h
  | .real _, _, _, _, h => real_normal h
  | .flag, _, _, _, h => flag_normal h
  | .number, _, _, _, h => number_normal h
  | .choice _ _, _, _, _, h => choice_normal h
  | .list item, hs, v, _, h => by
    cases v with
    | arr items =>
      obtain ⟨data, hdata, rfl⟩ := map_eq_ok_iff.mp h
      rw [consistent] at hs
      obtain ⟨data', hdata', hwritten⟩ := checkItems_again (check_normal item hs) hdata
      rw [Datum.toJson_list]
      refine ⟨.list data', ?_, by rw [Datum.toJson_list, hwritten]⟩
      rw [check, hdata']
      rfl
    | null | bool | int | float | str | obj => cases h
  | .table entry, hs, v, _, h => by
    cases v with
    | obj members =>
      obtain ⟨data, hdata, rfl⟩ := map_eq_ok_iff.mp h
      rw [consistent] at hs
      obtain ⟨data', hdata', hwritten⟩ := checkEntries_again (check_normal entry hs) hdata
      rw [Datum.toJson_table]
      refine ⟨.table data', ?_, by rw [Datum.toJson_table, hwritten]⟩
      rw [check, hdata']
      rfl
    | null | bool | int | float | str | arr => cases h
  | .optional inner, hs, v, d, h => by
    -- The inner shape may write null, which is read as null before the inner shape is tried.
    by_cases hnull : d.toJson = .null
    · rw [hnull]
      exact ⟨_, rfl, rfl⟩
    · cases v with
      | null =>
        cases h
        exact absurd rfl hnull
      | bool | int | float | str | arr | obj =>
        simp only [check] at h
        rw [consistent] at hs
        obtain ⟨d', hd', hwritten⟩ := check_normal inner hs _ d h
        refine ⟨d', ?_, hwritten⟩
        rw [check]
        · exact hd'
        · exact hnull
  | .record name extras fields, hs, v, d, h => by
    obtain ⟨members, data, rfl, hdata, hrefused, rfl⟩ := check_record_eq_ok_iff.mp h
    simp only [consistent, Bool.and_eq_true, decide_eq_true_eq] at hs
    have hnames := checkFields_names hdata
    have hnodup : (data.map (·.1)).Nodup := hnames ▸ hs.1
    have hwritten : (Datum.record (data ++ (kept extras fields members).map fun m =>
        (m.1, true, .plain m.2))).toJson =
        .obj (Datum.members data ++ kept extras fields members) := by
      rw [Datum.toJson_record, members_append_kept]
    have hget : ∀ f ∈ data, Assoc.get? (Datum.members data ++ kept extras fields members) f.1 =
        some f.2.2.toJson := by
      intro f hf
      rw [Assoc.get?_append, get?_members hnodup hf, Option.some_or]
    obtain ⟨data', hdata', hagain⟩ := checkFields_again fields hs.2 members data hdata _ hget
    rw [hwritten]
    refine ⟨_, check_record_eq_ok_iff.mpr ⟨_, data', rfl, hdata', fun hr => ?_, rfl⟩, ?_⟩
    · rw [others_again hnames, hr]
      rfl
    · rw [Datum.toJson_record, members_append_kept, hagain, kept_again hnames]

/-- Fields that were read are read again from members that hold them as they are written. -/
theorem checkFields_again : (fields : List (String × Shape × Option Json)) →
    consistentFields fields = true → ∀ members data, checkFields fields members = .ok data →
    ∀ members', (∀ f ∈ data, Assoc.get? members' f.1 = some f.2.2.toJson) →
    ∃ data', checkFields fields members' = .ok data' ∧ Datum.members data' = Datum.members data
  | [], _, _, _, h, _, _ => by
    cases h
    exact ⟨[], rfl, rfl⟩
  | (name, shape, default) :: rest, hs, members, data, h, members', hmembers' => by
    simp only [consistentFields, Bool.and_eq_true] at hs
    obtain ⟨⟨hshape, hdefault⟩, hrest⟩ := hs
    obtain ⟨f, more, hf, hmore, rfl⟩ := checkFields_cons_eq_ok_iff.mp h
    rw [List.forall_mem_cons] at hmembers'
    obtain ⟨more', hmore', hwritten⟩ :=
      checkFields_again rest hrest members more hmore members' hmembers'.2
    -- A supplied field is written in normal form, and so is the default of a missing one.
    have hnormal : f.1 = name ∧ shape.Normal f.2.2.toJson := by
      cases hf with
      | supplied hv hd => exact ⟨rfl, check_normal shape hshape _ _ hd⟩
      | missing => exact ⟨rfl, normal_of_isBlank hdefault⟩
    obtain ⟨rfl, d', hd', hd⟩ := hnormal
    refine ⟨(f.1, true, d') :: more', ?_, ?_⟩
    · exact checkFields_cons_eq_ok_iff.mpr ⟨_, _, .supplied hmembers'.1 hd', hmore', rfl⟩
    · rw [Datum.members, List.map_cons, hd]
      exact congrArg _ hwritten

end

/-- Reading a value and writing it out twice is the same as doing it once. -/
theorem normalize_again {shape : Shape} (hs : shape.consistent = true) {v w : Json}
    (h : shape.normalize v = .ok w) : shape.normalize w = .ok w := by
  obtain ⟨d, hd, rfl⟩ := map_eq_ok_iff.mp h
  exact (normal_iff _ _).mp (check_normal shape hs v d hd)

end Shape

/-- Every record, with the envelopes around models and around assets. -/
def allRecords : List Shape :=
  contractRecords ++ clientRecords ++
    [Client.executionEnvelope "ExecutionEnvelope[Asset]" Client.asset,
      Client.paginatedEnvelope "PaginatedExecutionEnvelope[Model]" Client.model]

theorem allRecords_consistent : ∀ shape ∈ allRecords, shape.consistent = true := by
  decide +kernel

/-- What any record reads and writes out, it reads again and writes out in the same way. -/
theorem normalize_idempotent [Platform] {shape : Shape} (hshape : shape ∈ allRecords) {v w : Json}
    (h : shape.normalize v = .ok w) : shape.normalize w = .ok w :=
  Shape.normalize_again (allRecords_consistent shape hshape) h

open scoped Platform in
/-- A page that is given by text, a double and a flag is written with integers, and so again. -/
theorem normalize_idempotent_pagination :
    let given : Json := .obj [("total", .str " 07 "), ("offset", .float ⟨0x4000000000000000⟩),
      ("limit", .bool true), ("has_more", .str "Yes"), ("note", .null)]
    let written : Json := .obj [("total", .int 7), ("offset", .int 2), ("limit", .int 1),
      ("has_more", .bool true)]
    Client.pagination.normalize given = .ok written ∧
      Client.pagination.normalize written = .ok written := by
  intro given written
  have hrecord : Client.pagination ∈ allRecords := by simp [allRecords, clientRecords]
  have hread : Client.pagination.normalize given = .ok written := rfl
  exact ⟨hread, normalize_idempotent hrecord hread⟩

end RegistryGateway
