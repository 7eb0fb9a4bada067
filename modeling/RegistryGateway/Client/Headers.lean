import RegistryGateway.Text.Digits

/-! The headers of a request: names with values, in order.  Names are compared ignoring the case of
ASCII letters, and one name may have several values. -/

namespace RegistryGateway.Client

/-- A run of characters outside ASCII in the name or value of a header, and its position there. -/
structure NotAscii where
  run : List Char
  position : Nat
  deriving DecidableEq

namespace NotAscii

def isOutside (c : Char) : Bool := 0x80 ≤ c.toNat

/-- The escape of a character by the width that its code point needs. -/
def escaped (c : Char) : List Char :=
  let n := c.toNat
  if n < 0x100 then '\\' :: 'x' :: hexPadded 2 n
  else if n < 0x10000 then '\\' :: 'u' :: hexPadded 4 n
  else '\\' :: 'U' :: hexPadded 8 n

def message (e : NotAscii) : String :=
  match e.run with
  | [c] =>
    s!"'ascii' codec can't encode character '{String.ofList (escaped c)}' in position " ++
      s!"{e.position}: ordinal not in range(128)"
  | run =>
    s!"'ascii' codec can't encode characters in position {e.position}-" ++
      s!"{e.position + run.length - 1}: ordinal not in range(128)"

def first? (text : String) : Option NotAscii :=
  let before := text.toList.takeWhile (!isOutside ·)
  match (text.toList.drop before.length).takeWhile isOutside with
  | [] => none
  | run => some ⟨run, before.length⟩

end NotAscii

abbrev Headers := List (String × String)

namespace Headers

/-- A name with its ASCII letters in lower case. -/
def fold (name : String) : String := String.ofList (name.toList.map Char.toLower)

/-- Whether two names are the same but for the case of ASCII letters. -/
def sameName (first second : String) : Bool := fold first = fold second

def contains (hs : Headers) (name : String) : Bool := hs.any fun h => sameName h.1 name

/-- The values under a name, in order. -/
def values (hs : Headers) (name : String) : List String :=
  (hs.filter fun h => sameName h.1 name).map (·.2)

/-- The values under a name in one text; `none` when there is none. -/
def get? (hs : Headers) (name : String) : Option String :=
  match values hs name with
  | [] => none
  | found => some (", ".intercalate found)

/-- The headers of `first` whose names `second` does not have, then those of `second`. -/
def update (first second : Headers) : Headers :=
  first.filter (fun h => !contains second h.1) ++ second

/-- A name that is not there gets a value. -/
def setDefault (hs : Headers) (name value : String) : Headers :=
  if contains hs name then hs else hs ++ [(name, value)]

/-- The name has this value alone, at the place of its first value. -/
def set (hs : Headers) (name value : String) : Headers :=
  match hs with
  | [] => [(name, value)]
  | h :: rest =>
    if sameName h.1 name then (name, value) :: rest.filter (fun h => !sameName h.1 name)
    else h :: set rest name value

/-- The first fault, of a name before its value. -/
def asciiFault? (hs : Headers) : Option NotAscii :=
  (hs.flatMap fun h => [h.1, h.2]).findSome? NotAscii.first?

/-- The headers with names in lower case, in the order of the names. -/
def sorted (hs : Headers) : Headers :=
  (hs.map fun h => (fold h.1, h.2)).mergeSort fun a b => a.1 ≤ b.1

theorem values_append (first second : Headers) (name : String) :
    values (first ++ second) name = values first name ++ values second name := by
  simp [values]

theorem values_eq_nil_iff (hs : Headers) (name : String) :
    values hs name = [] ↔ contains hs name = false := by
  simp [values, contains]

theorem contains_congr (hs : Headers) {first second : String} (h : sameName first second = true) :
    contains hs first = contains hs second := by
  simp only [sameName, decide_eq_true_eq] at h
  simp [contains, sameName, h]

theorem values_cons (h : String × String) (hs : Headers) (name : String) :
    values (h :: hs) name = if sameName h.1 name then h.2 :: values hs name else values hs name := by
  by_cases hn : sameName h.1 name = true <;> simp [values, hn]

/-- Of a name that `second` has, the values are those of `second`; of any other, those of
`first`. -/
theorem values_update (first second : Headers) (name : String) :
    values (update first second) name =
      if contains second name then values second name else values first name := by
  have kept : values (first.filter fun h => !contains second h.1) name =
      if contains second name then [] else values first name := by
    induction first with
    | nil => simp [values]
    | cons h rest ih =>
      by_cases hc : contains second h.1 = true
      · rw [List.filter_cons_of_neg (by simp [hc]), ih, values_cons]
        by_cases hn : sameName h.1 name = true
        · simp [← contains_congr second hn, hc]
        · simp [hn]
      · rw [List.filter_cons_of_pos (by simp [hc]), values_cons, ih, values_cons]
        by_cases hn : sameName h.1 name = true
        · simp [← contains_congr second hn, hc]
        · simp [hn]
  rw [update, values_append, kept]
  by_cases hc : contains second name = true
  · simp [hc]
  · simp [hc, (values_eq_nil_iff second name).2 (by simpa using hc)]

/-- A filter that keeps the headers of a name keeps its values. -/
theorem values_filter {p : String × String → Bool} {hs : Headers} {name : String}
    (h : ∀ x ∈ hs, sameName x.1 name = true → p x = true) :
    values (hs.filter p) name = values hs name := by
  rw [values, List.filter_filter, values]
  have hfilter : hs.filter (fun x => sameName x.1 name && p x) =
      hs.filter fun x => sameName x.1 name := by
    refine List.filter_congr fun x hx => ?_
    cases hsame : sameName x.1 name with
    | false => rfl
    | true => simp [h x hx hsame]
  rw [hfilter]

/-- A default changes no other name. -/
theorem values_setDefault_of_ne {key name : String} (h : sameName key name = false) (hs : Headers)
    (value : String) : values (setDefault hs key value) name = values hs name := by
  rw [setDefault]
  split
  · rfl
  · simp [values, h]

/-- A name that is set changes no other name. -/
theorem values_set_of_ne {key name : String} (h : sameName key name = false) (hs : Headers)
    (value : String) : values (set hs key value) name = values hs name := by
  have hother {first : String} (hkey : sameName first key = true) :
      sameName first name = false := by
    simp only [sameName, decide_eq_true_eq, decide_eq_false_iff_not] at hkey h ⊢
    rwa [hkey]
  induction hs with
  | nil => simp [set, values_cons, h]
  | cons first rest ih =>
    rw [set]
    split
    next hfirst =>
      have hrest : values (rest.filter fun x => !sameName x.1 key) name = values rest name := by
        refine values_filter fun x _ hx => ?_
        cases hkey : sameName x.1 key with
        | false => rfl
        | true => rw [hother hkey] at hx; cases hx
      rw [values_cons, values_cons, hrest, if_neg (by simp [h]), if_neg (by simp [hother hfirst])]
    · rw [values_cons, values_cons, ih]

end Headers

end RegistryGateway.Client
