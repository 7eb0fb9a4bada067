import RegistryGateway.Shape.Number

/-! Reading a value as a shape.  `Shape.check` gives the datum that the value stands for or all its
misfits, in the order of the fields; `Datum.toJson` writes a datum out again. -/

namespace RegistryGateway

/-- A value that has been read as a shape.  A record keeps, with each field, whether the value
supplied it. -/
inductive Datum
  | plain (value : Json)
  | list (items : List Datum)
  | table (entries : List (String × Datum))
  | record (fields : List (String × Bool × Datum))

namespace Datum

/-- Which fields are written: those that are null, and those that were not supplied. -/
structure Selection where
  nulls : Bool
  unsupplied : Bool

def Selection.all : Selection := ⟨true, true⟩

def isNull : Datum → Bool
  | .plain v => v.isNull
  | _ => false

mutual

/-- The value of a datum with the selected fields. -/
def write (selection : Selection) : Datum → Json
  | .plain v => v
  | .list items => .arr (writeItems selection items)
  | .table entries => .obj (writeEntries selection entries)
  | .record fields => .obj (writeFields selection fields)

def writeItems (selection : Selection) : List Datum → List Json
  | [] => []
  | d :: rest => write selection d :: writeItems selection rest

def writeEntries (selection : Selection) : List (String × Datum) → List (String × Json)
  | [] => []
  | (k, d) :: rest => (k, write selection d) :: writeEntries selection rest

def writeFields (selection : Selection) : List (String × Bool × Datum) → List (String × Json)
  | [] => []
  | (name, supplied, d) :: rest =>
    if (selection.nulls || !d.isNull) && (selection.unsupplied || supplied) then
      (name, write selection d) :: writeFields selection rest
    else writeFields selection rest

end

/-- The value of a datum with all fields. -/
def toJson (d : Datum) : Json := d.write .all

end Datum

namespace Shape

/-- A datum, or every misfit. -/
abbrev Reading := Except (List Misfit) Datum

/-- A fault at the value itself. -/
def fail (fault : Fault) : Reading := .error [⟨[], fault⟩]

/-- A scalar that was read, or its fault. -/
def scalar {α : Type} (make : α → Json) : Except Fault α → Reading
  | .ok a => .ok (.plain (make a))
  | .error fault => fail fault

/-- The first bound that does not hold is the fault. -/
def within {α : Type} (allows : Bound → Bool) (bounds : List Bound) (a : α) : Except Fault α :=
  match bounds.find? (fun b => !allows b) with
  | some b => .error (.outOfBound b)
  | none => .ok a

/-- Two readings side by side: both data, or the misfits of both. -/
def both {α : Type} (first : Except (List Misfit) α) (rest : Except (List Misfit) (List α)) :
    Except (List Misfit) (List α) :=
  match first, rest with
  | .ok a, .ok more => .ok (a :: more)
  | .error e, .ok _ => .error e
  | .ok _, .error e => .error e
  | .error e, .error more => .error (e ++ more)

/-- A reading found under a step of the path. -/
def under (step : String) : Reading → Reading
  | .ok d => .ok d
  | .error misfits => .error (misfits.map (·.under step))

/-- Items read in order from a position on. -/
def checkItems (item : Json → Reading) (position : Nat) :
    List Json → Except (List Misfit) (List Datum)
  | [] => .ok []
  | v :: rest => both (under (toString position) (item v)) (checkItems item (position + 1) rest)

/-- Entries read in order, each under its key. -/
def checkEntries (entry : Json → Reading) :
    List (String × Json) → Except (List Misfit) (List (String × Datum))
  | [] => .ok []
  | (k, v) :: rest =>
    both
      (match under k (entry v) with
      | .ok d => .ok (k, d)
      | .error misfits => .error misfits)
      (checkEntries entry rest)

variable [Platform]

/-- An integer stays one and a double stays one; any other value is tried as an integer, then as a
double. -/
def checkNumber (v : Json) : Reading :=
  match v with
  | .int i => .ok (.plain (.int i))
  | .float d => .ok (.plain (.float d))
  | v =>
    match toInteger v with
    | .ok i => .ok (.plain (.int i))
    | .error asInteger =>
      match toReal v with
      | .ok d => .ok (.plain (.float d))
      | .error asReal => .error [⟨["int"], asInteger⟩, ⟨["float"], asReal⟩]

mutual

def check : Shape → Json → Reading
  | .any, v => .ok (.plain v)
  | .text, .str s => .ok (.plain (.str s))
  | .text, _ => fail .notText
  | .integer bounds, v =>
    scalar .int ((toInteger v).bind fun i => within (Bound.allowsInteger i) bounds i)
  | .real bounds, v =>
    scalar .float ((toReal v).bind fun d => within (Bound.allowsReal d) bounds d)
  | .flag, v => scalar .bool (toFlag v)
  | .number, v => checkNumber v
  | .choice named options, .str s =>
    if options.contains s then .ok (.plain (.str s)) else fail (.notChoice named options)
  | .choice named options, _ => fail (.notChoice named options)
  | .list item, .arr items => (checkItems (check item) 0 items).map .list
  | .list _, _ => fail .notList
  | .table entry, .obj members => (checkEntries (check entry) members).map .table
  | .table _, _ => fail .notTable
  | .optional _, .null => .ok (.plain .null)
  | .optional inner, v => check inner v
  | .record _ extras fields, .obj members =>
    let others := members.filter fun m => !fields.any (·.1 = m.1)
    match checkFields fields members, extras with
    | .ok data, .ignore => .ok (.record data)
    | .ok data, .keep => .ok (.record (data ++ others.map fun (k, v) => (k, true, .plain v)))
    | .ok data, .refuse =>
      if others.isEmpty then .ok (.record data)
      else .error (others.map fun (k, _) => ⟨[k], .unexpected⟩)
    | .error misfits, .refuse =>
      .error (misfits ++ others.map fun (k, _) => ⟨[k], .unexpected⟩)
    | .error misfits, _ => .error misfits
  | .record name _ _, _ => fail (.notRecord name)

/-- The fields of a record read from the members of an object. -/
def checkFields : List (String × Shape × Option Json) → List (String × Json) →
    Except (List Misfit) (List (String × Bool × Datum))
  | [], _ => .ok []
  | (name, shape, default) :: rest, members =>
    both
      (match Assoc.get? members name, default with
      | some v, _ =>
        match under name (check shape v) with
        | .ok d => .ok (name, true, d)
        | .error misfits => .error misfits
      | none, some v => .ok (name, false, .plain v)
      | none, none => .error [⟨[name], .missing⟩])
      (checkFields rest members)

end

/-- The value in the normal form of the shape, or every misfit. -/
def normalize (shape : Shape) (v : Json) : Except (List Misfit) Json :=
  (shape.check v).map Datum.toJson

end Shape

end RegistryGateway
