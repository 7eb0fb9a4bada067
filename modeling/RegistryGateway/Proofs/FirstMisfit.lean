import RegistryGateway.Proofs.KeyCheck
import RegistryGateway.Proofs.RecordForm

/-! The first misfit of a request.  The misfits of a record are those of its fields one after the
other, and the misfits of a field lie under its name and depend on its own member only.  So strict
validation names the first field in the order of the record whose value is not of its shape; neither
the order of the keys nor what comes after that field changes what is said. -/

namespace RegistryGateway

namespace Shape

/-- The misfits of a reading, none if it succeeds. -/
def misfits {α : Type} : Except (List Misfit) α → List Misfit
  | .ok _ => []
  | .error found => found

section

variable {α β : Type}

theorem misfits_both (first : Except (List Misfit) α) (rest : Except (List Misfit) (List α)) :
    misfits (both first rest) = misfits first ++ misfits rest := by
  cases first <;> cases rest <;> simp [both, misfits]

theorem misfits_under (step : String) (r : Reading) :
    misfits (under step r) = (misfits r).map (·.under step) := by
  cases r <;> rfl

theorem misfits_map (f : α → β) (r : Except (List Misfit) α) : misfits (r.map f) = misfits r := by
  cases r <;> rfl

end

section

variable [Platform]

/-- The misfits of a field: those of its member, under its name, or that it is missing. -/
def fieldMisfits (members : List (String × Json)) (field : String × Shape × Option Json) :
    List Misfit :=
  match Assoc.get? members field.1, field.2.2 with
  | some v, _ => (misfits (field.2.1.check v)).map (·.under field.1)
  | none, some _ => []
  | none, none => [⟨[field.1], .missing⟩]

theorem misfits_checkFields (fields : List (String × Shape × Option Json))
    (members : List (String × Json)) :
    misfits (checkFields fields members) = fields.flatMap (fieldMisfits members) := by
  induction fields with
  | nil => rfl
  | cons field rest ih =>
    obtain ⟨name, shape, default⟩ := field
    rw [List.flatMap_cons, ← ih, fieldMisfits]
    cases hget : Assoc.get? members name with
    | some v =>
      simp only [checkFields, hget, misfits_both]
      cases shape.check v <;> rfl
    | none => cases default <;> simp only [checkFields, hget, misfits_both] <;> rfl

/-- The members that a record refuses. -/
def refused (extras : Extras) (fields : List (String × Shape × Option Json))
    (members : List (String × Json)) : List (String × Json) :=
  match extras with
  | .refuse => others fields members
  | .ignore | .keep => []

/-- A record has the misfits of its fields, and after these its refused members. -/
theorem misfits_check_record (name : String) (extras : Extras)
    (fields : List (String × Shape × Option Json)) (members : List (String × Json)) :
    misfits (check (.record name extras fields) (.obj members)) =
      fields.flatMap (fieldMisfits members) ++
        (refused extras fields members).map fun m => ⟨[m.1], .unexpected⟩ := by
  rw [← misfits_checkFields]
  cases hdata : checkFields fields members with
  | error found => cases extras <;> simp [check, hdata, misfits, refused, others]
  | ok data =>
    cases extras with
    | ignore | keep => simp [check, hdata, misfits, refused]
    | refuse =>
      simp only [check, hdata, refused, others]
      split
      next h => simp [misfits, List.isEmpty_iff.mp h]
      · simp [misfits]

theorem misfits_eq_nil_iff (shape : Shape) (v : Json) :
    misfits (shape.check v) = [] ↔ shape.Admits v := by
  cases hv : shape.check v with
  | ok d => simp [misfits, Admits, hv]
  | error found => simp [misfits, Admits, hv, check_explains shape v found hv]

/-- Every misfit of a field lies under its name. -/
theorem path_of_mem_fieldMisfits {members : List (String × Json)}
    {field : String × Shape × Option Json} {m : Misfit} (h : m ∈ fieldMisfits members field) :
    ∃ steps, m.path = field.1 :: steps := by
  rw [fieldMisfits] at h
  split at h
  · obtain ⟨inner, -, rfl⟩ := List.mem_map.mp h
    exact ⟨inner.path, rfl⟩
  · cases h
  · rw [List.mem_singleton.mp h]
    exact ⟨[], rfl⟩

theorem fieldMisfits_congr {members members' : List (String × Json)}
    {field : String × Shape × Option Json}
    (h : Assoc.get? members' field.1 = Assoc.get? members field.1) :
    fieldMisfits members' field = fieldMisfits members field := by
  rw [fieldMisfits, fieldMisfits, h]

/-! ### Shapes that look at objects field by field -/

/-- Whether the misfits of an object do not depend on the order of its keys. -/
def orderFree : Shape → Bool
  | .table .any => true
  | .table _ | .record _ .refuse _ => false
  | .optional inner => orderFree inner
  | _ => true

theorem misfits_table_any (members : List (String × Json)) :
    misfits (check (.table .any) (.obj members)) = [] :=
  (misfits_eq_nil_iff _ _).mpr ((admits_table_any_iff _).mpr ⟨members, rfl⟩)

theorem misfits_obj_perm {members members' : List (String × Json)} (hperm : members.Perm members')
    (hkeys : (Assoc.keys members).Nodup) : (shape : Shape) → shape.orderFree = true →
    misfits (shape.check (.obj members')) = misfits (shape.check (.obj members))
  | .any, _ | .text, _ | .integer _, _ | .real _, _ | .flag, _ | .number, _ | .choice _ _, _
  | .list _, _ => rfl
  | .table .any, _ => by rw [misfits_table_any, misfits_table_any]
  | .optional inner, h => by
    rw [orderFree] at h
    exact misfits_obj_perm hperm hkeys inner h
  | .record name extras fields, h => by
    have hfields : fieldMisfits members' = fieldMisfits members := by
      funext field
      exact fieldMisfits_congr (Assoc.get?_perm hperm hkeys field.1)
    rw [misfits_check_record, misfits_check_record, hfields]
    cases extras with
    | ignore | keep => rfl
    | refuse => cases h

end

/-! ### Shapes that refuse no members -/

mutual

/-- Whether no record in a shape refuses members. -/
def tolerant : Shape → Bool
  | .list item => tolerant item
  | .table entry => tolerant entry
  | .optional inner => tolerant inner
  | .record _ .refuse _ => false
  | .record _ _ fields => tolerantFields fields
  | _ => true

def tolerantFields : List (String × Shape × Option Json) → Bool
  | [] => true
  | (_, shape, _) :: rest => tolerant shape && tolerantFields rest

end

/-- No member is a misfit because it was not expected. -/
def Tolerated (found : List Misfit) : Prop := ∀ m ∈ found, m.fault ≠ .unexpected

theorem Tolerated.nil : Tolerated [] := by
  intro m hm
  cases hm

theorem Tolerated.append {first rest : List Misfit} (hfirst : Tolerated first)
    (hrest : Tolerated rest) : Tolerated (first ++ rest) := by
  intro m hm
  rcases List.mem_append.mp hm with hm | hm
  · exact hfirst m hm
  · exact hrest m hm

theorem Tolerated.under {found : List Misfit} (h : Tolerated found) (step : String) :
    Tolerated (found.map (·.under step)) := by
  intro m hm
  obtain ⟨inner, hinner, rfl⟩ := List.mem_map.mp hm
  exact h inner hinner

theorem Tolerated.singleton {m : Misfit} (h : m.fault ≠ .unexpected) : Tolerated [m] := by
  intro other hother
  rw [List.mem_singleton.mp hother]
  exact h

theorem tolerated_fail {fault : Fault} (h : fault ≠ .unexpected) :
    Tolerated (misfits (fail fault)) := .singleton h

theorem tolerated_scalar {α : Type} (make : α → Json) {r : Except Fault α}
    (h : r ≠ .error .unexpected) : Tolerated (misfits (scalar make r)) := by
  cases r with
  | ok a => exact .nil
  | error fault => exact tolerated_fail fun hfault => h (congrArg _ hfault)

theorem bind_within_ne_unexpected {α : Type} {allows : α → Bound → Bool} {bounds : List Bound}
    {r : Except Fault α} (h : r ≠ .error .unexpected) :
    (r.bind fun a => within (allows a) bounds a) ≠ .error .unexpected := by
  cases r with
  | error fault => exact h
  | ok a =>
    simp only [Except.bind, within]
    split <;> simp

theorem checkItems_tolerated {item : Json → Reading} (h : ∀ v, Tolerated (misfits (item v)))
    (position : Nat) (items : List Json) :
    Tolerated (misfits (checkItems item position items)) := by
  induction items generalizing position with
  | nil => exact .nil
  | cons v rest ih =>
    rw [checkItems, misfits_both, misfits_under]
    exact ((h v).under _).append (ih _)

theorem checkEntries_tolerated {entry : Json → Reading} (h : ∀ v, Tolerated (misfits (entry v)))
    (members : List (String × Json)) : Tolerated (misfits (checkEntries entry members)) := by
  induction members with
  | nil => exact .nil
  | cons m rest ih =>
    obtain ⟨k, v⟩ := m
    rw [checkEntries, misfits_both]
    refine .append ?_ ih
    have hentry := (h v).under k
    cases hv : entry v with
    | ok d => exact .nil
    | error found =>
      rw [hv] at hentry
      exact hentry

theorem toFlag_ne_unexpected (v : Json) : toFlag v ≠ .error .unexpected := by
  cases v <;> grind [toFlag, flagOfText, flagOfInteger]

variable [Platform]

theorem toInteger_ne_unexpected (v : Json) : toInteger v ≠ .error .unexpected := by
  cases v <;> grind [toInteger, integerOfText, integerOfReal]

theorem toReal_ne_unexpected (v : Json) : toReal v ≠ .error .unexpected := by
  cases v <;> grind [toReal, realOfText]

theorem checkNumber_tolerated (v : Json) : Tolerated (misfits (checkNumber v)) := by
  have hinteger := toInteger_ne_unexpected v
  have hreal := toReal_ne_unexpected v
  cases v with
  | int | float => exact .nil
  | null | bool | str | arr | obj =>
    simp only [checkNumber]
    split
    · exact .nil
    next asInteger hi =>
      split
      · exact .nil
      next asReal hr =>
        intro m hm
        rcases List.mem_cons.mp hm with rfl | hm
        · exact fun hfault => hinteger (hi.trans (congrArg _ hfault))
        · rw [List.mem_singleton.mp hm]
          exact fun hfault => hreal (hr.trans (congrArg _ hfault))

mutual

theorem check_tolerated : (shape : Shape) → shape.tolerant = true → (v : Json) →
    Tolerated (misfits (shape.check v))
  | .any, _, _ => .nil
  | .text, _, v => by
    cases v with
    | str s => exact .nil
    | null | bool | int | float | arr | obj => exact tolerated_fail Fault.noConfusion
  | .integer bounds, _, v => by
    rw [check]
    exact tolerated_scalar _ (bind_within_ne_unexpected (toInteger_ne_unexpected v))
  | .real bounds, _, v => by
    rw [check]
    exact tolerated_scalar _ (bind_within_ne_unexpected (toReal_ne_unexpected v))
  | .flag, _, v => by
    rw [check]
    exact tolerated_scalar _ (toFlag_ne_unexpected v)
  | .number, _, v => by
    rw [check]
    exact checkNumber_tolerated v
  | .choice named options, _, v => by
    cases v with
    | str s =>
      rw [check]
      split
      · exact .nil
      · exact tolerated_fail Fault.noConfusion
    | null | bool | int | float | arr | obj => exact tolerated_fail Fault.noConfusion
  | .list item, h, v => by
    cases v with
    | arr items =>
      rw [tolerant] at h
      rw [check, misfits_map]
      exact checkItems_tolerated (check_tolerated item h) 0 items
    | null | bool | int | float | str | obj => exact tolerated_fail Fault.noConfusion
  | .table entry, h, v => by
    cases v with
    | obj members =>
      rw [tolerant] at h
      rw [check, misfits_map]
      exact checkEntries_tolerated (check_tolerated entry h) members
    | null | bool | int | float | str | arr => exact tolerated_fail Fault.noConfusion
  | .optional inner, h, v => by
    rw [tolerant] at h
    cases v with
    | null => exact .nil
    | bool | int | float | str | arr | obj =>
      rw [check]
      · exact check_tolerated inner h _
      · rintro ⟨⟩
  | .record name extras fields, h, v => by
    cases v with
    | obj members =>
      rw [misfits_check_record]
      cases extras with
      | refuse => cases h
      | ignore | keep =>
        rw [tolerant] at h
        · exact (fieldMisfits_tolerated fields h members).append .nil
        · rintro ⟨⟩
    | null | bool | int | float | str | arr => exact tolerated_fail Fault.noConfusion

theorem fieldMisfits_tolerated : (fields : List (String × Shape × Option Json)) →
    tolerantFields fields = true → (members : List (String × Json)) →
    Tolerated (fields.flatMap (fieldMisfits members))
  | [], _, _ => .nil
  | (name, shape, default) :: rest, h, members => by
    rw [tolerantFields, Bool.and_eq_true] at h
    rw [List.flatMap_cons]
    refine .append ?_ (fieldMisfits_tolerated rest h.2 members)
    rw [fieldMisfits]
    split
    · exact (check_tolerated shape h.1 _).under name
    · exact .nil
    · exact .singleton Fault.noConfusion

end

end Shape

end RegistryGateway
