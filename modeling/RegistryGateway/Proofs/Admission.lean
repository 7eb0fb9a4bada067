import RegistryGateway.Shape.Check

/-! The values that a shape admits: those that are read without a misfit.  A list is admitted when
its items are, and a record when its fields are and, where others are refused, no other member is
there.  A value that is not admitted has at least one misfit. -/

namespace RegistryGateway

namespace Shape

theorem both_isOk_iff {α : Type} (first : Except (List Misfit) α)
    (rest : Except (List Misfit) (List α)) :
    (∃ all, both first rest = .ok all) ↔ (∃ a, first = .ok a) ∧ ∃ more, rest = .ok more := by
  cases first <;> cases rest <;> simp [both]

theorem under_isOk_iff (step : String) (r : Reading) (d : Datum) :
    under step r = .ok d ↔ r = .ok d := by
  cases r <;> simp [under]

theorem map_isOk_iff {α β : Type} (f : α → β) (r : Except (List Misfit) α) :
    (∃ b, r.map f = .ok b) ↔ ∃ a, r = .ok a := by
  cases r <;> simp [Except.map]

theorem checkItems_isOk_iff (item : Json → Reading) (position : Nat) (items : List Json) :
    (∃ data, checkItems item position items = .ok data) ↔ ∀ v ∈ items, ∃ d, item v = .ok d := by
  induction items generalizing position with
  | nil => simp [checkItems]
  | cons v rest ih =>
    simp only [checkItems, both_isOk_iff, under_isOk_iff, ih, List.forall_mem_cons]

theorem checkEntries_isOk_iff (entry : Json → Reading) (members : List (String × Json)) :
    (∃ data, checkEntries entry members = .ok data) ↔ ∀ m ∈ members, ∃ d, entry m.2 = .ok d := by
  induction members with
  | nil => simp [checkEntries]
  | cons m rest ih =>
    obtain ⟨k, v⟩ := m
    rw [checkEntries, both_isOk_iff, ih, List.forall_mem_cons]
    refine and_congr_left fun _ => ?_
    cases entry v <;> simp [under]

section

variable [Platform]

/-- A value is read as a shape. -/
def Admits (shape : Shape) (v : Json) : Prop := ∃ d, shape.check v = .ok d

/-- A field finds a value of its shape among the members, or needs none. -/
def FieldAdmits (field : String × Shape × Option Json) (members : List (String × Json)) : Prop :=
  match Assoc.get? members field.1 with
  | some v => field.2.1.Admits v
  | none => field.2.2.isSome = true

theorem checkFields_isOk_iff (fields : List (String × Shape × Option Json))
    (members : List (String × Json)) :
    (∃ data, checkFields fields members = .ok data) ↔ ∀ f ∈ fields, FieldAdmits f members := by
  induction fields with
  | nil => simp [checkFields]
  | cons f rest ih =>
    obtain ⟨name, shape, default⟩ := f
    rw [List.forall_mem_cons]
    cases hv : Assoc.get? members name with
    | some v =>
      simp only [checkFields, both_isOk_iff, ih, FieldAdmits, hv, Admits]
      refine and_congr_left fun _ => ?_
      cases shape.check v <;> simp [under]
    | none =>
      cases default <;> simp [checkFields, both_isOk_iff, ih, FieldAdmits, hv]

theorem admits_text_iff (v : Json) : Admits .text v ↔ ∃ s, v = .str s := by
  cases v <;> simp [Admits, check, fail]

theorem admits_real_iff (bounds : List Bound) (v : Json) :
    Admits (.real bounds) v ↔
      ∃ d, toReal v = .ok d ∧ ∀ bound ∈ bounds, bound.allowsReal d = true := by
  cases hd : toReal v with
  | error fault => simp [Admits, check, hd, Except.bind, scalar, fail]
  | ok d =>
    simp only [Admits, check, hd, Except.bind, within, Except.ok.injEq, exists_eq_left']
    cases h : bounds.find? fun bound => !Bound.allowsReal d bound with
    | none =>
      have hall : ∀ bound ∈ bounds, bound.allowsReal d = true := by
        simpa [List.find?_eq_none] using h
      exact iff_of_true ⟨_, rfl⟩ hall
    | some bound =>
      have hnot : bound.allowsReal d = false := by simpa using List.find?_some h
      refine iff_of_false (by simp [scalar, fail]) fun hall => ?_
      rw [hall bound (List.mem_of_find?_eq_some h)] at hnot
      cases hnot

theorem admits_choice_iff (named : Bool) (options : List String) (v : Json) :
    Admits (.choice named options) v ↔ ∃ s ∈ options, v = .str s := by
  cases v with
  | str s => by_cases h : s ∈ options <;> simp [Admits, check, fail, h]
  | null | bool | int | float | arr | obj => simp [Admits, check, fail]

theorem admits_list_iff (item : Shape) (v : Json) :
    Admits (.list item) v ↔ ∃ items, v = .arr items ∧ ∀ x ∈ items, item.Admits x := by
  cases v with
  | arr items =>
    rw [Admits, check, map_isOk_iff, checkItems_isOk_iff]
    simp [Admits]
  | null | bool | int | float | str | obj => simp [Admits, check, fail]

theorem admits_table_any_iff (v : Json) : Admits (.table .any) v ↔ ∃ members, v = .obj members := by
  cases v with
  | obj members =>
    rw [Admits, check, map_isOk_iff, checkEntries_isOk_iff]
    simp [check]
  | null | bool | int | float | str | arr => simp [Admits, check, fail]

theorem admits_optional_iff (inner : Shape) (v : Json) :
    Admits (.optional inner) v ↔ v = .null ∨ inner.Admits v := by
  cases v with
  | null => simp [Admits, check]
  | bool | int | float | str | arr | obj => simp [Admits, check]

theorem admits_record_iff (name : String) (extras : Extras)
    (fields : List (String × Shape × Option Json)) (v : Json) :
    Admits (.record name extras fields) v ↔
      ∃ members, v = .obj members ∧ (∀ f ∈ fields, FieldAdmits f members) ∧
        (extras = .refuse → ∀ m ∈ members, m.1 ∈ fields.map (·.1)) := by
  cases v with
  | obj members =>
    have hothers : (members.filter fun m => !fields.any (·.1 = m.1)).isEmpty = true ↔
        ∀ m ∈ members, m.1 ∈ fields.map (·.1) := by
      simp [List.isEmpty_iff, List.filter_eq_nil_iff]
    simp only [Json.obj.injEq, exists_eq_left', ← checkFields_isOk_iff, ← hothers, Admits]
    cases hfields : checkFields fields members with
    | error misfits => cases extras <;> simp [check, hfields]
    | ok data =>
      cases extras with
      | ignore | keep => simp [check, hfields]
      | refuse =>
        by_cases h : (members.filter fun m => !fields.any (·.1 = m.1)).isEmpty = true <;>
          simp [check, hfields, h]
  | null | bool | int | float | str | arr => simp [Admits, check, fail]

end

/-! ### Misfits -/

/-- A reading that is refused has a misfit. -/
def Explains {α : Type} (r : Except (List Misfit) α) : Prop :=
  ∀ misfits, r = .error misfits → misfits ≠ []

section

variable {α β : Type}

theorem Explains.ok (a : α) : Explains (.ok a) := nofun

theorem Explains.error {misfits : List Misfit} (h : misfits ≠ []) :
    Explains (.error misfits : Except (List Misfit) α) := by
  rintro _ ⟨⟩
  exact h

theorem Explains.both {first : Except (List Misfit) α} {rest : Except (List Misfit) (List α)}
    (hfirst : Explains first) (hrest : Explains rest) : Explains (Shape.both first rest) := by
  cases first with
  | ok a =>
    cases rest with
    | ok more => exact .ok _
    | error e => exact .error (hrest e rfl)
  | error e =>
    cases rest with
    | ok more => exact .error (hfirst e rfl)
    | error more => exact .error (List.append_ne_nil_of_left_ne_nil (hfirst e rfl) _)

theorem Explains.under (step : String) {r : Reading} (h : Explains r) :
    Explains (Shape.under step r) := by
  cases r with
  | ok d => exact .ok d
  | error misfits => exact .error (by simpa using h misfits rfl)

theorem Explains.map (f : α → β) {r : Except (List Misfit) α} (h : Explains r) :
    Explains (r.map f) := by
  cases r with
  | ok a => exact .ok _
  | error misfits => exact .error (h misfits rfl)

theorem Explains.scalar (make : α → Json) (r : Except Fault α) :
    Explains (Shape.scalar make r) := by
  cases r with
  | ok a => exact .ok _
  | error fault => exact .error (List.cons_ne_nil _ _)

theorem Explains.fail (fault : Fault) : Explains (Shape.fail fault) :=
  .error (List.cons_ne_nil _ _)

theorem checkItems_explains {item : Json → Reading} (h : ∀ v, Explains (item v)) (position : Nat)
    (items : List Json) : Explains (checkItems item position items) := by
  induction items generalizing position with
  | nil => exact .ok _
  | cons v rest ih => exact .both (.under _ (h v)) (ih _)

theorem checkEntries_explains {entry : Json → Reading} (h : ∀ v, Explains (entry v))
    (members : List (String × Json)) : Explains (checkEntries entry members) := by
  induction members with
  | nil => exact .ok _
  | cons m rest ih =>
    obtain ⟨k, v⟩ := m
    rw [checkEntries]
    refine .both ?_ ih
    have hentry := Explains.under k (h v)
    cases hv : Shape.under k (entry v) with
    | ok d => exact .ok _
    | error misfits => exact .error (hentry misfits hv)

end

variable [Platform]

theorem checkNumber_explains (v : Json) : Explains (checkNumber v) := by
  cases v with
  | int | float => exact .ok _
  | null | bool | str | arr | obj =>
    simp only [checkNumber]
    split
    · exact .ok _
    · split
      · exact .ok _
      · exact .error (List.cons_ne_nil _ _)

mutual

/-- A value that is not of a shape has a misfit. -/
theorem check_explains : (shape : Shape) → (v : Json) → Explains (shape.check v)
  | .any, _ => .ok _
  | .text, v => by
    cases v with
    | str s => exact .ok _
    | null | bool | int | float | arr | obj => exact .fail _
  | .integer _, _ | .real _, _ | .flag, _ => by
    simp only [check]
    exact .scalar _ _
  | .number, v => by
    simp only [check]
    exact checkNumber_explains v
  | .choice named options, v => by
    cases v with
    | str s =>
      simp only [check]
      split
      · exact .ok _
      · exact .fail _
    | null | bool | int | float | arr | obj => exact .fail _
  | .list item, v => by
    cases v with
    | arr items => exact .map _ (checkItems_explains (check_explains item) 0 items)
    | null | bool | int | float | str | obj => exact .fail _
  | .table entry, v => by
    cases v with
    | obj members => exact .map _ (checkEntries_explains (check_explains entry) members)
    | null | bool | int | float | str | arr => exact .fail _
  | .optional inner, v => by
    cases v with
    | null => exact .ok _
    | bool | int | float | str | arr | obj =>
      simp only [check]
      exact check_explains inner _
  | .record name extras fields, v => by
    cases v with
    | obj members =>
      have hfields := checkFields_explains fields members
      cases hdata : checkFields fields members with
      | ok data =>
        cases extras with
        | ignore | keep =>
          simp only [check, hdata]
          exact .ok _
        | refuse =>
          simp only [check, hdata]
          split
          · exact .ok _
          next h => exact .error (by simpa using h)
      | error misfits =>
        have hmisfits := hfields misfits hdata
        cases extras with
        | ignore | keep =>
          simp only [check, hdata]
          exact .error hmisfits
        | refuse =>
          simp only [check, hdata]
          exact .error (List.append_ne_nil_of_left_ne_nil hmisfits _)
    | null | bool | int | float | str | arr => exact .fail _

theorem checkFields_explains : (fields : List (String × Shape × Option Json)) →
    (members : List (String × Json)) → Explains (checkFields fields members)
  | [], _ => .ok _
  | (name, shape, default) :: rest, members => by
    have hrest := checkFields_explains rest members
    cases hv : Assoc.get? members name with
    | some v =>
      have hvalue := Explains.under name (check_explains shape v)
      simp only [checkFields, hv]
      refine .both ?_ hrest
      cases hd : Shape.under name (shape.check v) with
      | ok d => exact .ok _
      | error misfits => exact .error (hvalue misfits hd)
    | none =>
      cases default with
      | some v =>
        simp only [checkFields, hv]
        exact .both (.ok _) hrest
      | none =>
        simp only [checkFields, hv]
        exact .both (.error (List.cons_ne_nil _ _)) hrest

end

end Shape

end RegistryGateway
