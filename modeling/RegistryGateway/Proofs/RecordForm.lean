import RegistryGateway.Client.Search
import RegistryGateway.Proofs.NormalForm

/-! Records field by field.  Each field of a record is read from the member of its name or from its
default, so a record depends on no other member; and where the shape of a field takes every value as
it is, the value is written out just as it came.  A record whose fields are all like that is
written, without what was not supplied or without what is null, as members of the value it was read
from, and is read from these again. -/

namespace RegistryGateway

namespace Shape

open Client (membersOf)

variable {fields : List (String × Shape × Option Json)} {members : List (String × Json)}
  {data : List (String × Bool × Datum)}

section

variable [Platform]

theorem FieldRead.name {field : String × Shape × Option Json} {f : String × Bool × Datum}
    (h : FieldRead members field f) : f.1 = field.1 := by
  cases h <;> rfl

theorem exists_fieldRead (h : checkFields fields members = .ok data)
    {field : String × Shape × Option Json} (hfield : field ∈ fields) :
    ∃ f ∈ data, FieldRead members field f := by
  induction fields generalizing data with
  | nil => cases hfield
  | cons other rest ih =>
    obtain ⟨f, more, hf, hmore, rfl⟩ := checkFields_cons_eq_ok_iff.mp h
    obtain rfl | hfield := List.mem_cons.mp hfield
    · exact ⟨f, List.mem_cons_self, hf⟩
    · obtain ⟨g, hg, hread⟩ := ih hmore hfield
      exact ⟨g, List.mem_cons_of_mem _ hg, hread⟩

/-- Members that hold the same under the names of the fields are read as the same fields. -/
theorem checkFields_congr {members' : List (String × Json)}
    (h : ∀ field ∈ fields, Assoc.get? members' field.1 = Assoc.get? members field.1) :
    checkFields fields members' = checkFields fields members := by
  induction fields with
  | nil => rfl
  | cons field rest ih =>
    obtain ⟨name, shape, default⟩ := field
    rw [List.forall_mem_cons] at h
    simp only [checkFields, h.1, ih h.2]

/-- A field of a record is found in its normal form, as it was read. -/
theorem member?_of_normalize {name : String} {extras : Extras} {v w : Json}
    (h : (record name extras fields).normalize v = .ok w) (hnames : (fields.map (·.1)).Nodup)
    {field : String × Shape × Option Json} (hfield : field ∈ fields) :
    ∃ members f, v = .obj members ∧ FieldRead members field f ∧
      w.member? field.1 = some f.2.2.toJson := by
  obtain ⟨d, hd, rfl⟩ := map_eq_ok_iff.mp h
  obtain ⟨members, data, rfl, hdata, -, rfl⟩ := check_record_eq_ok_iff.mp hd
  obtain ⟨f, hf, hread⟩ := exists_fieldRead hdata hfield
  have hnodup : (data.map (·.1)).Nodup := checkFields_names hdata ▸ hnames
  refine ⟨members, f, rfl, hread, ?_⟩
  rw [Datum.toJson_record, members_append_kept, Json.member?, Assoc.get?_append, ← hread.name,
    get?_members hnodup hf, Option.some_or]

end

/-! ## Values that are taken as they are -/

/-- Whether a shape takes every value that it reads as it is. -/
def verbatim : Shape → Bool
  | .any | .text | .choice _ _ => true
  | .list item => verbatim item
  | .table entry => verbatim entry
  | .optional inner => verbatim inner
  | .integer _ | .real _ | .flag | .number | .record _ _ _ => false

/-- A datum stands for a value as it is: all of it is written, whichever fields are selected. -/
structure Keeps (d : Datum) (v : Json) : Prop where
  write : ∀ selection, d.write selection = v
  isNull : d.isNull = v.isNull

theorem Keeps.toJson {d : Datum} {v : Json} (h : Keeps d v) : d.toJson = v := h.write .all

theorem keeps_plain (v : Json) : Keeps (.plain v) v := ⟨fun _ => rfl, rfl⟩

theorem writeItems_of_keeps {item : Json → Reading} (hitem : ∀ v d, item v = .ok d → Keeps d v)
    (selection : Datum.Selection) {items : List Json} {data : List Datum} {position : Nat}
    (h : checkItems item position items = .ok data) : Datum.writeItems selection data = items := by
  induction items generalizing position data with
  | nil =>
    cases h
    rfl
  | cons v rest ih =>
    obtain ⟨d, more, hd, hmore, rfl⟩ := both_eq_ok_iff.mp h
    rw [Datum.writeItems, (hitem v d ((under_isOk_iff _ _ _).mp hd)).write, ih hmore]

theorem writeEntries_of_keeps {entry : Json → Reading} (hentry : ∀ v d, entry v = .ok d → Keeps d v)
    (selection : Datum.Selection) {data : List (String × Datum)}
    (h : checkEntries entry members = .ok data) :
    Datum.writeEntries selection data = members := by
  induction members generalizing data with
  | nil =>
    cases h
    rfl
  | cons m rest ih =>
    obtain ⟨k, v⟩ := m
    obtain ⟨e, more, he, hmore, rfl⟩ := both_eq_ok_iff.mp h
    cases hv : entry v with
    | error misfits =>
      rw [hv] at he
      cases he
    | ok d =>
      rw [hv] at he
      cases he
      rw [Datum.writeEntries, (hentry v d hv).write, ih hmore]

section

variable [Platform]

/-- What a verbatim shape reads, it keeps. -/
theorem check_keeps : (shape : Shape) → shape.verbatim = true → ∀ v d, shape.check v = .ok d →
    Keeps d v
  | .any, _, v, _, h => by
    cases h
    exact keeps_plain v
  | .text, _, v, _, h => by
    cases v with
    | str s =>
      cases h
      exact keeps_plain _
    | null | bool | int | float | arr | obj => cases h
  | .choice _ options, _, v, _, h => by
    cases v with
    | str s =>
      rw [check] at h
      split at h
      · cases h
        exact keeps_plain _
      · cases h
    | null | bool | int | float | arr | obj => cases h
  | .list item, hs, v, _, h => by
    cases v with
    | arr items =>
      obtain ⟨data, hdata, rfl⟩ := map_eq_ok_iff.mp h
      rw [verbatim] at hs
      refine ⟨fun selection => ?_, rfl⟩
      rw [Datum.write, writeItems_of_keeps (check_keeps item hs) selection hdata]
    | null | bool | int | float | str | obj => cases h
  | .table entry, hs, v, _, h => by
    cases v with
    | obj members =>
      obtain ⟨data, hdata, rfl⟩ := map_eq_ok_iff.mp h
      rw [verbatim] at hs
      refine ⟨fun selection => ?_, rfl⟩
      rw [Datum.write, writeEntries_of_keeps (check_keeps entry hs) selection hdata]
    | null | bool | int | float | str | arr => cases h
  | .optional inner, hs, v, d, h => by
    rw [verbatim] at hs
    cases v with
    | null =>
      cases h
      exact keeps_plain _
    | bool | int | float | str | arr | obj =>
      rw [check] at h
      · exact check_keeps inner hs _ d h
      · rintro ⟨⟩

/-- A field that takes values as they are holds the member of its name, or its default. -/
theorem FieldRead.keeps {field : String × Shape × Option Json} {f : String × Bool × Datum}
    (h : FieldRead members field f) (hs : field.2.1.verbatim = true) :
    ∃ v, Keeps f.2.2 v ∧ (Assoc.get? members field.1).or field.2.2 = some v ∧
      f.2.1 = (Assoc.get? members field.1).isSome := by
  cases h with
  | @supplied name shape default v d hv hd =>
    exact ⟨v, check_keeps shape hs v d hd, by rw [hv]; rfl, by rw [hv]; rfl⟩
  | @missing name shape v hv =>
    exact ⟨v, keeps_plain v, by rw [hv]; rfl, by rw [hv]; rfl⟩

end

/-! ## What was given -/

/-- The members under some names, in the order of the names. -/
def given (names : List String) (members : List (String × Json)) : List (String × Json) :=
  names.filterMap fun name => (Assoc.get? members name).map fun v => (name, v)

theorem given_cons (name : String) (names : List String) (members : List (String × Json)) :
    given (name :: names) members =
      ((Assoc.get? members name).map fun v => (name, v)).toList ++ given names members := by
  rw [given, List.filterMap_cons]
  cases Assoc.get? members name <;> rfl

theorem given_subset (names : List String) (members : List (String × Json)) :
    given names members ⊆ members := by
  intro m hm
  obtain ⟨name, -, hname⟩ := List.mem_filterMap.mp hm
  obtain ⟨v, hv, rfl⟩ := Option.map_eq_some_iff.mp hname
  exact Assoc.mem_of_get? hv

theorem keys_given_sublist (names : List String) (members : List (String × Json)) :
    ((given names members).map (·.1)).Sublist names := by
  induction names with
  | nil => exact .slnil
  | cons name rest ih =>
    rw [given_cons]
    cases Assoc.get? members name with
    | none => exact ih.cons name
    | some v => exact ih.cons_cons name

/-- A name is found among the given members that pass a test as it is among all members. -/
theorem get?_filter_given (p : Json → Bool) (names : List String) (members : List (String × Json))
    (key : String) :
    Assoc.get? ((given names members).filter fun m => p m.2) key =
      if key ∈ names then (Assoc.get? members key).filter p else none := by
  induction names with
  | nil => rfl
  | cons name rest ih =>
    rw [given_cons, List.filter_append, Assoc.get?_append, ih]
    by_cases hname : name = key
    · subst hname
      cases hv : Assoc.get? members name with
      | none => simp
      | some v => by_cases hp : p v = true <;> simp [hp, Assoc.get?_cons, Option.filter_some]
    · cases hv : Assoc.get? members name with
      | none => simp [Ne.symm hname]
      | some v => by_cases hp : p v = true <;> simp [hp, Assoc.get?_cons, hname, Ne.symm hname]

theorem get?_given (names : List String) (members : List (String × Json)) (key : String) :
    Assoc.get? (given names members) key =
      if key ∈ names then Assoc.get? members key else none := by
  have hall (m : Option Json) : m.filter (fun _ => true) = m := by cases m <;> rfl
  have hfilter := get?_filter_given (fun _ => true) names members key
  rwa [List.filter_eq_self.mpr fun _ _ => rfl, hall] at hfilter

variable [Platform]

/-- A field holds null when it is missing, or is never null. -/
def NullMeansMissing (field : String × Shape × Option Json) : Prop :=
  field.2.2 = some .null ∨ field.2.2 = none ∧ ∀ d, field.2.1.check .null ≠ .ok d

section

variable (hs : ∀ field ∈ fields, field.2.1.verbatim = true)
  (h : checkFields fields members = .ok data)

include hs h

/-- The fields that were supplied are written as the members that were given. -/
theorem writeFields_supplied :
    Datum.writeFields ⟨true, false⟩ data = given (fields.map (·.1)) members := by
  induction fields generalizing data with
  | nil =>
    cases h
    rfl
  | cons field rest ih =>
    rw [List.forall_mem_cons] at hs
    obtain ⟨⟨name, supplied, d⟩, more, hf, hmore, rfl⟩ := checkFields_cons_eq_ok_iff.mp h
    obtain ⟨v, hkeeps, hv, hsupplied⟩ := hf.keeps hs.1
    obtain rfl : name = field.1 := hf.name
    rw [List.map_cons, given_cons, Datum.writeFields, ih hs.2 hmore, hkeeps.write]
    cases hget : Assoc.get? members field.1 with
    | none =>
      obtain rfl : supplied = false := by simpa [hget] using hsupplied
      rfl
    | some found =>
      obtain rfl : found = v := by simpa [hget] using hv
      obtain rfl : supplied = true := by simpa [hget] using hsupplied
      rfl

/-- The fields that are not null are written in full. -/
theorem writeFields_present :
    Datum.writeFields ⟨false, true⟩ data =
      (Datum.members data).filter fun m => !m.2.isNull := by
  induction fields generalizing data with
  | nil =>
    cases h
    rfl
  | cons field rest ih =>
    rw [List.forall_mem_cons] at hs
    obtain ⟨⟨name, supplied, d⟩, more, hf, hmore, rfl⟩ := checkFields_cons_eq_ok_iff.mp h
    obtain ⟨v, hkeeps, -, -⟩ := hf.keeps hs.1
    have hmembers : Datum.members ((name, supplied, d) :: more) =
        (name, d.toJson) :: Datum.members more := rfl
    rw [Datum.writeFields, ih hs.2 hmore, hkeeps.write, hkeeps.isNull, hmembers, hkeeps.toJson]
    cases hisNull : v.isNull <;> simp [hisNull]

variable (hnull : ∀ field ∈ fields, NullMeansMissing field)

include hnull

/-- The fields that are not null are the members that were given and are not null. -/
theorem members_present :
    (Datum.members data).filter (fun m => !m.2.isNull) =
      (given (fields.map (·.1)) members).filter fun m => !m.2.isNull := by
  induction fields generalizing data with
  | nil =>
    cases h
    rfl
  | cons field rest ih =>
    rw [List.forall_mem_cons] at hs hnull
    obtain ⟨⟨name, supplied, d⟩, more, hf, hmore, rfl⟩ := checkFields_cons_eq_ok_iff.mp h
    obtain ⟨v, hkeeps, hv, -⟩ := hf.keeps hs.1
    obtain rfl : name = field.1 := hf.name
    have hmembers : Datum.members ((field.1, supplied, d) :: more) =
        (field.1, d.toJson) :: Datum.members more := rfl
    rw [List.map_cons, given_cons, List.filter_append, ← ih hs.2 hmore hnull.2, hmembers,
      hkeeps.toJson]
    cases hget : Assoc.get? members field.1 with
    | some found =>
      obtain rfl : found = v := by simpa [hget] using hv
      cases hisNull : found.isNull <;> simp [hisNull]
    | none =>
      rw [hget, Option.none_or] at hv
      obtain hdefault | ⟨hdefault, -⟩ := hnull.1
      · obtain rfl : Json.null = v := by simpa [hdefault] using hv
        rfl
      · simp [hdefault] at hv

/-- Fields are read without the members that are null as they are with them. -/
theorem checkFields_present {members' : List (String × Json)}
    (hmembers : ∀ field ∈ fields, Assoc.get? members' field.1 =
      (Assoc.get? members field.1).filter fun v => !v.isNull) :
    ∃ data', checkFields fields members' = .ok data' ∧
      Datum.members data' = Datum.members data := by
  induction fields generalizing data with
  | nil =>
    cases h
    exact ⟨[], rfl, rfl⟩
  | cons field rest ih =>
    rw [List.forall_mem_cons] at hs hnull hmembers
    obtain ⟨f, more, hf, hmore, rfl⟩ := checkFields_cons_eq_ok_iff.mp h
    obtain ⟨more', hmore', hrest⟩ := ih hs.2 hmore hnull.2 hmembers.2
    have hfield : ∃ f', FieldRead members' field f' ∧ f'.2.2.toJson = f.2.2.toJson := by
      cases hf with
      | @supplied name shape default v d hv hd =>
        have hmember := hmembers.1
        rw [hv, Option.filter_some] at hmember
        cases v with
        | null =>
          obtain hdefault | ⟨-, hrefused⟩ := hnull.1
          · obtain rfl : default = some .null := hdefault
            exact ⟨_, .missing hmember, (check_keeps shape hs.1 _ d hd).toJson.symm⟩
          · exact absurd hd (hrefused d)
        | bool | int | float | str | arr | obj => exact ⟨_, .supplied hmember hd, rfl⟩
      | missing hv =>
        have hmember := hmembers.1
        rw [hv] at hmember
        exact ⟨_, .missing hmember, rfl⟩
    obtain ⟨f', hf', hwritten⟩ := hfield
    refine ⟨f' :: more', checkFields_cons_eq_ok_iff.mpr ⟨f', more', hf', hmore', rfl⟩, ?_⟩
    simp only [Datum.members, List.map_cons, hwritten, hf.name, hf'.name] at hrest ⊢
    rw [hrest]

end

/-! ## Records without members of their own -/

section

variable {name : String} {d : Datum} (hs : ∀ field ∈ fields, field.2.1.verbatim = true)
  (h : (record name .ignore fields).check (.obj members) = .ok d)

include h

theorem exists_fields :
    ∃ data, checkFields fields members = .ok data ∧ d = .record data := by
  obtain ⟨members', data, hmembers, hdata, -, rfl⟩ := check_record_eq_ok_iff.mp h
  obtain rfl := Json.obj.inj hmembers
  exact ⟨data, hdata, by simp [kept]⟩

/-- What was given is read as the same record, with the same fields supplied. -/
theorem check_given :
    (record name .ignore fields).check (.obj (given (fields.map (·.1)) members)) = .ok d := by
  obtain ⟨data, hdata, rfl⟩ := exists_fields h
  refine check_record_eq_ok_iff.mpr ⟨_, data, rfl, ?_, nofun, by simp [kept]⟩
  rw [← hdata]
  refine checkFields_congr fun field hfield => ?_
  rw [get?_given, if_pos (List.mem_map_of_mem hfield)]

include hs

theorem write_supplied :
    d.write ⟨true, false⟩ = .obj (given (fields.map (·.1)) members) := by
  obtain ⟨data, hdata, rfl⟩ := exists_fields h
  rw [Datum.write, writeFields_supplied hs hdata]

theorem write_present :
    d.write ⟨false, true⟩ = .obj ((membersOf d.toJson).filter fun m => !m.2.isNull) := by
  obtain ⟨data, hdata, rfl⟩ := exists_fields h
  rw [Datum.write, writeFields_present hs hdata, Datum.toJson_record]
  rfl

variable (hnull : ∀ field ∈ fields, NullMeansMissing field)

include hnull

theorem present_eq_given :
    ((membersOf d.toJson).filter fun m => !m.2.isNull) =
      (given (fields.map (·.1)) members).filter fun m => !m.2.isNull := by
  obtain ⟨data, hdata, rfl⟩ := exists_fields h
  rw [Datum.toJson_record]
  exact members_present hs hdata hnull

/-- What is not null of a record is read as a record with the same values. -/
theorem normalize_present :
    (record name .ignore fields).normalize
      (.obj ((membersOf d.toJson).filter fun m => !m.2.isNull)) = .ok d.toJson := by
  have hmembers : ∀ field ∈ fields,
      Assoc.get? ((membersOf d.toJson).filter fun m => !m.2.isNull) field.1 =
        (Assoc.get? members field.1).filter fun v => !v.isNull := fun field hfield => by
    rw [present_eq_given hs h hnull, get?_filter_given (!·.isNull),
      if_pos (List.mem_map_of_mem hfield)]
  obtain ⟨data, hdata, rfl⟩ := exists_fields h
  obtain ⟨data', hdata', hwritten⟩ := checkFields_present hs hdata hnull hmembers
  refine map_eq_ok_iff.mpr ⟨.record data', ?_, ?_⟩
  · exact check_record_eq_ok_iff.mpr ⟨_, data', rfl, hdata', nofun, by simp [kept]⟩
  · rw [Datum.toJson_record, Datum.toJson_record, hwritten]

end

end Shape

end RegistryGateway
