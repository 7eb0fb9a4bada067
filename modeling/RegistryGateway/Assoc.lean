/-! Maps with string keys that keep the order in which keys first appeared. -/

namespace RegistryGateway

/-- Keyed values in order of first insertion. -/
abbrev Assoc (α : Type) := List (String × α)

namespace Assoc

variable {α β : Type}

def get? (m : Assoc α) (key : String) : Option α :=
  (m.find? (·.1 = key)).map (·.2)

def keys (m : Assoc α) : List String := m.map (·.1)

def contains (m : Assoc α) (key : String) : Bool := m.any (·.1 = key)

/-- A present key keeps its position and takes the new value; a new key comes last. -/
def put (m : Assoc α) (key : String) (value : α) : Assoc α :=
  match m with
  | [] => [(key, value)]
  | (k, v) :: rest => if k = key then (k, value) :: rest else (k, v) :: put rest key value

/-- The map after putting every pair in turn: of repeated keys the last value, at the first
position. -/
def ofPairs (pairs : List (String × α)) : Assoc α :=
  pairs.foldl (fun m p => m.put p.1 p.2) []

/-- `first` followed by the pairs of `second` put in turn. -/
def update (first second : Assoc α) : Assoc α :=
  second.foldl (fun m p => m.put p.1 p.2) first

def mapValues (f : α → β) (m : Assoc α) : Assoc β := m.map fun (k, v) => (k, f v)

@[simp] theorem get?_nil (key : String) : get? ([] : Assoc α) key = none := rfl

theorem get?_cons (k : String) (v : α) (m : Assoc α) (key : String) :
    get? ((k, v) :: m) key = if k = key then some v else get? m key := by
  by_cases h : k = key <;> simp [get?, h]

/-- A put is read back under its own key and under no other. -/
theorem get?_put (m : Assoc α) (k key : String) (v : α) :
    (m.put k v).get? key = if k = key then some v else m.get? key := by
  induction m with
  | nil => simp [put, get?_cons]
  | cons p rest ih =>
    obtain ⟨k', v'⟩ := p
    by_cases h : k' = k
    · subst h; by_cases hk : k' = key <;> simp [put, get?_cons, hk]
    · by_cases hk : k' = key
      · subst hk; simp [put, get?_cons, h, Ne.symm h]
      · simp [put, get?_cons, h, hk, ih]

/-- A put adds its key at the end unless it is present. -/
theorem keys_put (m : Assoc α) (k : String) (v : α) :
    (m.put k v).keys = if k ∈ m.keys then m.keys else m.keys ++ [k] := by
  induction m with
  | nil => simp [put, keys]
  | cons p rest ih =>
    obtain ⟨k', v'⟩ := p
    by_cases h : k' = k
    · subst h; simp [put, keys]
    · simp only [keys] at ih
      by_cases hm : k ∈ List.map (·.1) rest <;> simp_all [put, keys, Ne.symm h]

/-- A put of a new key adds a pair at the end. -/
theorem put_of_not_mem {m : Assoc α} {k : String} (h : k ∉ m.keys) (v : α) :
    m.put k v = m ++ [(k, v)] := by
  induction m with
  | nil => rfl
  | cons p rest ih =>
    obtain ⟨k', v'⟩ := p
    simp only [keys, List.map_cons, List.mem_cons, not_or] at h
    simp [put, Ne.symm h.1, ih h.2]

/-- A put under a key that is filtered out leaves no trace. -/
theorem filter_put (p : String → Bool) (m : Assoc α) (k : String) (v : α) :
    (m.put k v).filter (fun e => p e.1) =
      if p k then Assoc.put (m.filter fun e => p e.1) k v else m.filter fun e => p e.1 := by
  induction m with
  | nil => by_cases h : p k = true <;> simp [put, h]
  | cons e rest ih =>
    obtain ⟨k', v'⟩ := e
    by_cases hk : k' = k
    · subst hk
      by_cases h : p k' = true <;> simp [put, h]
    · by_cases h' : p k' = true
      · by_cases h : p k = true <;> simp_all [put]
      · by_cases h : p k = true <;> simp_all [put]

/-- What is put into a map and filtered is filtered and put in. -/
theorem filter_update (p : String → Bool) (first second : Assoc α) :
    (update first second).filter (fun e => p e.1) =
      update (first.filter fun e => p e.1) (second.filter fun e => p e.1) := by
  induction second generalizing first with
  | nil => rfl
  | cons e rest ih =>
    have hstep : update first (e :: rest) = update (first.put e.1 e.2) rest := rfl
    rw [hstep, ih, filter_put]
    by_cases h : p e.1 = true
    · simp only [h, if_true, List.filter_cons]
      rfl
    · simp only [h, List.filter_cons, Bool.false_eq_true, if_false]

/-- A key that is kept is looked up in a filtered map as in the whole one. -/
theorem get?_filter (p : String → Bool) (m : Assoc α) (key : String) :
    get? (m.filter fun e => p e.1) key = if p key then m.get? key else none := by
  induction m with
  | nil => simp
  | cons e rest ih =>
    obtain ⟨k, v⟩ := e
    by_cases hk : k = key
    · subst hk
      by_cases h : p k = true <;> simp [get?_cons, h, ih]
    · by_cases h : p k = true <;> simp [get?_cons, hk, h, ih]

theorem get?_of_not_mem {m : Assoc α} {k : String} (h : k ∉ m.keys) : m.get? k = none := by
  rw [get?, List.find?_eq_none.mpr, Option.map_none]
  intro p hp hk
  exact h (List.mem_map.mpr ⟨p, hp, by simpa using hk⟩)

theorem mem_of_get? {m : Assoc α} {key : String} {v : α} (h : m.get? key = some v) :
    (key, v) ∈ m := by
  obtain ⟨p, hp, rfl⟩ := Option.map_eq_some_iff.mp h
  obtain rfl : p.1 = key := by simpa using List.find?_some hp
  exact List.mem_of_find?_eq_some hp

/-- Under distinct keys the pairs of a map are those that are looked up. -/
theorem get?_eq_some_iff {m : Assoc α} (h : m.keys.Nodup) {key : String} {v : α} :
    m.get? key = some v ↔ (key, v) ∈ m := by
  induction m with
  | nil => simp
  | cons p rest ih =>
    obtain ⟨k, w⟩ := p
    rw [keys, List.map_cons, List.nodup_cons] at h
    rw [get?_cons, List.mem_cons]
    by_cases hk : k = key
    · subst hk
      have hnot : (k, v) ∉ rest := fun hmem => h.1 (List.mem_map.mpr ⟨_, hmem, rfl⟩)
      simp [hnot, eq_comm]
    · rw [if_neg hk, ih h.2]
      simp [Ne.symm hk]

/-- Distinct keys are looked up alike in any order. -/
theorem get?_perm {m m' : Assoc α} (hperm : m.Perm m') (h : m.keys.Nodup) (key : String) :
    m'.get? key = m.get? key := by
  have h' : m'.keys.Nodup := (hperm.map _).nodup_iff.mp h
  apply Option.ext
  intro v
  rw [get?_eq_some_iff h', get?_eq_some_iff h, hperm.mem_iff]

theorem contains_iff (m : Assoc α) (key : String) :
    contains m key = true ↔ ∃ v, get? m key = some v := by
  induction m with
  | nil => simp [contains]
  | cons p rest ih =>
    obtain ⟨k, v⟩ := p
    simp only [contains, List.any_cons, Bool.or_eq_true, get?_cons] at ih ⊢
    by_cases h : k = key <;> simp [h, ih]

theorem mem_keys_iff (m : Assoc α) (key : String) : key ∈ m.keys ↔ ∃ v, m.get? key = some v := by
  rw [← contains_iff]
  simp [keys, contains]

/-- A key is looked up in the first map, then in the second. -/
theorem get?_append (first second : Assoc α) (key : String) :
    get? (first ++ second) key = (get? first key).or (get? second key) := by
  simp only [get?, List.find?_append]
  cases List.find? (·.1 = key) first <;> rfl

end Assoc

end RegistryGateway
