import RegistryGateway.Proofs.DoubleText
import RegistryGateway.Proofs.Quoting

/-! Reading a value that was written.  The reader takes the value itself off its text, unless an
integer in it has more digits than are read.  The induction is on the fuel of the reader, over
values, items and members at once. -/

namespace RegistryGateway

namespace Assoc

variable {α : Type}

theorem foldl_put (pairs m : Assoc α) (h : (keys (m ++ pairs)).Nodup) :
    pairs.foldl (fun m p => m.put p.1 p.2) m = m ++ pairs := by
  induction pairs generalizing m with
  | nil => exact (List.append_nil m).symm
  | cons p rest ih =>
    have hnew : p.1 ∉ m.keys := by
      intro hmem
      rw [keys, List.map_append] at h
      exact List.disjoint_of_nodup_append h hmem List.mem_cons_self
    have hstep : m ++ [p] ++ rest = m ++ p :: rest := by
      rw [List.append_assoc, List.singleton_append]
    rw [List.foldl_cons, put_of_not_mem hnew, ih (m ++ [p]) (by rwa [hstep]), hstep]

/-- Pairs of different keys are put in their order. -/
theorem ofPairs_of_nodup {pairs : Assoc α} (h : pairs.keys.Nodup) : ofPairs pairs = pairs :=
  foldl_put pairs [] h

end Assoc

theorem hasText_iff (i : Int) : hasText i = true ↔ i.natAbs < 10 ^ digitLimit := by
  rw [hasText, decide_eq_true_eq, Nat.length_toDigits_le_iff (by decide) (by decide)]

namespace Json

mutual

/-- A condition on a value and on every value inside it. -/
def all (p : Json → Bool) : Json → Bool
  | .arr items => p (.arr items) && allItems p items
  | .obj members => p (.obj members) && allMembers p members
  | v => p v

def allItems (p : Json → Bool) : List Json → Bool
  | [] => true
  | v :: rest => all p v && allItems p rest

def allMembers (p : Json → Bool) : List (String × Json) → Bool
  | [] => true
  | (_, v) :: rest => all p v && allMembers p rest

end

def distinctKeys : Json → Bool
  | .obj members => decide (Assoc.keys members).Nodup
  | _ => true

/-- An integer has no more digits than are read. -/
def withinDigits : Json → Bool
  | .int i => hasText i
  | _ => true

theorem withinDigits_int_iff (i : Int) :
    withinDigits (.int i) = true ↔ i.natAbs < 10 ^ digitLimit := hasText_iff i

/-- The separators are a comma and a colon with blanks after them. -/
structure Style.Standard (style : Style) : Prop where
  item : ∃ blanks, blanks.all isBlank = true ∧ style.itemSeparator = ',' :: blanks
  key : ∃ blanks, blanks.all isBlank = true ∧ style.keySeparator = ':' :: blanks

theorem wireStyle_standard : wireStyle.Standard where
  item := ⟨[' '], rfl, rfl⟩
  key := ⟨[' '], rfl, rfl⟩

theorem compactStyle_standard : compactStyle.Standard where
  item := ⟨[], rfl, rfl⟩
  key := ⟨[], rfl, rfl⟩

/-- A step takes a value off its text if a condition holds, and refuses the text otherwise. -/
structure Step.Takes {α : Type} (step : Step α) (ok : Bool) (v : α) (rest : List Char) : Prop where
  taken : ok = true → step = .ok (v, rest)
  refused : ok = false → ∃ failure, step = .error failure

namespace Step.Takes

variable {α β : Type} {step : Step α} {ok ok' : Bool} {v : α} {w : β} {rest rest' : List Char}

theorem of_eq (h : step = .ok (v, rest)) : step.Takes true v rest := ⟨fun _ => h, nofun⟩

theorem andThen {next : α → List Char → Step β} (h : step.Takes ok v rest)
    (hnext : (next v rest).Takes ok' w rest') : (step.andThen next).Takes (ok && ok') w rest' := by
  cases ok with
  | true =>
    rw [h.taken rfl, Bool.true_and]
    exact hnext
  | false =>
    obtain ⟨failure, hfailure⟩ := h.refused rfl
    rw [hfailure, Bool.false_and]
    exact ⟨nofun, fun _ => ⟨failure, rfl⟩⟩

theorem map (f : α → β) (h : step.Takes ok v rest) :
    (step.andThen fun v rest => .ok (f v, rest)).Takes ok (f v) rest := by
  have hlast : Step.Takes (.ok (f v, rest)) true (f v) rest := of_eq rfl
  rw [← Bool.and_true ok]
  exact h.andThen hlast

end Step.Takes

/-! ## Blanks -/

theorem skipBlank_cons {c : Char} (h : isBlank c = false) (rest : List Char) :
    skipBlank (c :: rest) = c :: rest := by
  rw [skipBlank, List.dropWhile_cons_of_neg (Bool.not_eq_true _ ▸ h)]

theorem skipBlank_append {blanks : List Char} (h : blanks.all isBlank = true)
    (rest : List Char) : skipBlank (blanks ++ rest) = skipBlank rest :=
  List.dropWhile_append_of_pos (List.all_eq_true.mp h)

/-! ## Numbers -/

theorem value_scalar {c : Char} (hquote : c ≠ '"') (hitems : c ≠ '[') (hmembers : c ≠ '{')
    (fuel : Nat) (rest : List Char) : value (fuel + 1) (c :: rest) = scalar (c :: rest) := by
  simp [value, hquote, hitems, hmembers]

namespace Numeral

/-- A number may start with the character. -/
def startsNumber (c : Char) : Bool := c = '-' || isDecimalDigit c

theorem ne_of_startsNumber {c d : Char} (hc : startsNumber c = true)
    (hd : startsNumber d = false) : c ≠ d := by
  rintro rfl
  rw [hc] at hd
  cases hd

variable {n : Numeral} (h : n.WellFormed)

include h

theorem text_cons : ∃ c more, n.text = c :: more ∧ startsNumber c = true := by
  obtain ⟨digit, digits, hwhole⟩ := List.exists_cons_of_ne_nil h.nonempty
  have hdigit := h.whole digit (by rw [hwhole]; exact List.mem_cons_self)
  unfold text
  rw [hwhole]
  cases n.negative with
  | true => exact ⟨'-', _, rfl, rfl⟩
  | false => exact ⟨digit, _, rfl, by rw [startsNumber, hdigit, Bool.or_true]⟩

/-- No word that stands for a value starts as a number does. -/
theorem scalar_text (rest : List Char) : scalar (n.text ++ rest) = number (n.text ++ rest) := by
  obtain ⟨digit, digits, hwhole⟩ := List.exists_cons_of_ne_nil h.nonempty
  have hdigit := h.whole digit (by rw [hwhole]; exact List.mem_cons_self)
  have hne {c : Char} (hc : isDecimalDigit c = false) : c ≠ digit := by
    rintro rfl
    rw [hdigit] at hc
    cases hc
  have hnone : words.findSome? (fun word =>
      (afterWord? word.1 (n.text ++ rest)).map (word.2, ·)) = none := by
    rw [text, hwhole]
    cases n.negative <;>
      simp [words, afterWord?, signText, hne (c := 'n') rfl, hne (c := 't') rfl,
        hne (c := 'f') rfl, hne (c := 'N') rfl, hne (c := 'I') rfl, hne (c := '-') rfl]
  rw [scalar]
  split
  next read hread =>
    have hsome := hread.symm.trans hnone
    cases hsome
  · rfl

theorem value_text {rest : List Char} (hrest : Ends rest) (fuel : Nat) :
    (Json.value (fuel + 1) (n.text ++ rest)).Takes
      (!(n.isInteger && decide (digitLimit < n.whole.length))) n.value rest := by
  obtain ⟨c, more, htext, hc⟩ := text_cons h
  have hvalue : Json.value (fuel + 1) (n.text ++ rest) = number (n.text ++ rest) := by
    rw [← scalar_text h rest, htext]
    exact value_scalar (ne_of_startsNumber hc rfl) (ne_of_startsNumber hc rfl)
      (ne_of_startsNumber hc rfl) fuel _
  rw [hvalue, number_text h hrest]
  by_cases hlong : n.isInteger = true ∧ digitLimit < n.whole.length
  · rw [if_pos hlong]
    refine ⟨fun hok => ?_, fun _ => ⟨_, rfl⟩⟩
    simp [hlong] at hok
  · rw [if_neg hlong]
    exact ⟨fun _ => rfl, fun hok => absurd (by simpa using hok) hlong⟩

end Numeral

section

variable (fuel : Nat) {rest : List Char} (hrest : Numeral.Ends rest)

include hrest

theorem value_int (i : Int) :
    (value (fuel + 1) ((toString i).toList ++ rest)).Takes (withinDigits (.int i)) (.int i) rest := by
  have htakes := Numeral.value_text (Numeral.ofInt_wellFormed i) hrest fuel
  have hok : (!((Numeral.ofInt i).isInteger &&
      decide (digitLimit < (Numeral.ofInt i).whole.length))) = withinDigits (.int i) := by
    show (!decide (digitLimit < (Nat.toDigits 10 i.natAbs).length)) =
      decide ((Nat.toDigits 10 i.natAbs).length ≤ digitLimit)
    rw [Bool.eq_iff_iff]
    simp
  rwa [← Numeral.ofInt_text, Numeral.ofInt_value, hok] at htakes

theorem value_float {d : Double} (hfinite : d.isFinite = true) :
    (value (fuel + 1) ((d.textIn numberLayout).toList ++ rest)).Takes true (.float d) rest := by
  have htakes :=
    Numeral.value_text (Numeral.ofDouble_wellFormed numberLayout hfinite) hrest fuel
  rw [← Numeral.ofDouble_text numberLayout hfinite, Numeral.ofDouble_value numberLayout hfinite,
    Numeral.ofDouble_isInteger] at htakes
  exact htakes

end

/-! ## Values, items and members -/

theorem value_string (asciiOnly : Bool) (s : String) (fuel : Nat) (rest : List Char) :
    (value (fuel + 1) (quoted asciiOnly s ++ rest)).Takes true (.str s) rest := by
  refine .of_eq ?_
  show (string (quoted asciiOnly s ++ rest)).andThen (fun s rest => .ok (Json.str s, rest)) = _
  rw [string_quoted]
  rfl

theorem value_items {c : Char} (hblank : isBlank c = false) (hclose : c ≠ ']') (fuel : Nat)
    (rest : List Char) :
    value (fuel + 1) ('[' :: c :: rest) =
      (items fuel (c :: rest)).andThen fun items rest => .ok (.arr items, rest) := by
  simp [value, skipBlank_cons hblank, hclose]

theorem value_members (fuel : Nat) (rest : List Char) :
    value (fuel + 1) ('{' :: '"' :: rest) =
      (members fuel ('"' :: rest)).andThen fun members rest =>
        .ok (.obj (Assoc.ofPairs members), rest) := rfl

/-- After a key and its colon the reader goes on with the value. -/
theorem members_quoted (asciiOnly : Bool) (k : String) (fuel : Nat) (rest : List Char) :
    members (fuel + 1) (quoted asciiOnly k ++ ':' :: rest) =
      (value fuel (skipBlank rest)).andThen fun v rest =>
        match skipBlank rest with
        | '}' :: rest => .ok ([(k, v)], rest)
        | ',' :: rest =>
          (members fuel (skipBlank rest)).andThen fun more rest => .ok ((k, v) :: more, rest)
        | rest => .error (.comma, rest) := by
  have hstring := string_quoted asciiOnly k (':' :: rest)
  rw [quoted, List.cons_append] at hstring ⊢
  rw [members, hstring]
  rfl

/-- A value starts with no blank and does not look like the end of an array. -/
theorem chars_cons (style : Style) {v : Json} (hfinite : v.allFinite = true) :
    ∃ c more, chars style v = c :: more ∧ isBlank c = false ∧ c ≠ ']' := by
  have hnumeral {n : Numeral} (h : n.WellFormed) :
      ∃ c more, n.text = c :: more ∧ isBlank c = false ∧ c ≠ ']' := by
    obtain ⟨c, more, htext, hc⟩ := Numeral.text_cons h
    refine ⟨c, more, htext, Bool.eq_false_iff.mpr fun hblank => ?_,
      Numeral.ne_of_startsNumber hc rfl⟩
    simp only [isBlank, Bool.or_eq_true, decide_eq_true_eq] at hblank
    obtain ((rfl | rfl) | rfl) | rfl := hblank <;> cases hc
  cases v with
  | null => exact ⟨_, _, rfl, rfl, nofun⟩
  | bool b => cases b <;> exact ⟨_, _, rfl, rfl, nofun⟩
  | int i =>
    rw [chars, Numeral.ofInt_text]
    exact hnumeral (Numeral.ofInt_wellFormed i)
  | float d =>
    rw [chars, Numeral.ofDouble_text numberLayout hfinite]
    exact hnumeral (Numeral.ofDouble_wellFormed numberLayout hfinite)
  | str s => exact ⟨_, _, rfl, rfl, nofun⟩
  | arr items => exact ⟨_, _, rfl, rfl, nofun⟩
  | obj members => exact ⟨_, _, rfl, rfl, nofun⟩

theorem itemChars_cons_cons (style : Style) (v w : Json) (more : List Json) :
    itemChars style (v :: w :: more) =
      chars style v ++ (style.itemSeparator ++ itemChars style (w :: more)) := by
  rw [itemChars, List.append_assoc]
  nofun

theorem memberChars_cons_cons (style : Style) (k : String) (v : Json) (m : String × Json)
    (more : List (String × Json)) :
    memberChars style ((k, v) :: m :: more) =
      quoted style.asciiOnly k ++ (style.keySeparator ++
        (chars style v ++ (style.itemSeparator ++ memberChars style (m :: more)))) := by
  rw [memberChars]
  · simp only [List.append_assoc]
  · nofun

theorem itemChars_cons (style : Style) {v : Json} (more : List Json)
    (hfinite : v.allFinite = true) :
    ∃ c text, itemChars style (v :: more) = c :: text ∧ isBlank c = false ∧ c ≠ ']' := by
  obtain ⟨c, text, hchars, hc⟩ := chars_cons style hfinite
  cases more with
  | nil => exact ⟨c, text, hchars, hc⟩
  | cons w more =>
    rw [itemChars_cons_cons, hchars]
    exact ⟨c, _, rfl, hc⟩

theorem memberChars_cons (style : Style) (m : String × Json) (more : List (String × Json)) :
    ∃ text, memberChars style (m :: more) = '"' :: text := by
  obtain ⟨k, v⟩ := m
  cases more with
  | nil => exact ⟨_, rfl⟩
  | cons m' more =>
    rw [memberChars_cons_cons]
    exact ⟨_, rfl⟩

variable (style : Style)

/-- The reader takes every value that was written in the style off its text.  No character costs
more than two calls. -/
def TakesValues (fuel : Nat) : Prop :=
  ∀ v rest, v.allFinite = true → v.all distinctKeys = true →
    2 * (chars style v).length ≤ fuel → Numeral.Ends rest →
    (value fuel (chars style v ++ rest)).Takes (v.all withinDigits) v rest

def TakesItems (fuel : Nat) : Prop :=
  ∀ vs rest, vs ≠ [] → allFiniteItems vs = true → allItems distinctKeys vs = true →
    2 * (itemChars style vs).length < fuel →
    (items fuel (itemChars style vs ++ ']' :: rest)).Takes (allItems withinDigits vs) vs rest

def TakesMembers (fuel : Nat) : Prop :=
  ∀ ms rest, ms ≠ [] → allFiniteMembers ms = true → allMembers distinctKeys ms = true →
    2 * (memberChars style ms).length < fuel →
    (members fuel (memberChars style ms ++ '}' :: rest)).Takes (allMembers withinDigits ms) ms rest

variable {style}

theorem value_step {fuel : Nat} (hitems : TakesItems style fuel)
    (hmembers : TakesMembers style fuel) : TakesValues style (fuel + 1) := by
  intro v rest hfinite hkeys hfuel hrest
  cases v with
  | null => exact .of_eq rfl
  | bool b => cases b <;> exact .of_eq rfl
  | int i => exact value_int fuel hrest i
  | float d => exact value_float fuel hrest hfinite
  | str s => exact value_string _ s fuel rest
  | arr vs =>
    cases vs with
    | nil => exact .of_eq rfl
    | cons v more =>
      rw [chars, List.length_cons, List.length_append] at hfuel
      -- The two brackets pay for the calls of `value` and of `items`.
      have hvs : allItems distinctKeys (v :: more) = true := hkeys
      have htakes := hitems (v :: more) rest (List.cons_ne_nil _ _) hfinite hvs (by omega)
      obtain ⟨c, text, hchars, hblank, hclose⟩ :=
        itemChars_cons style more (Bool.and_eq_true_iff.mp hfinite).1
      rw [chars, List.cons_append, List.append_assoc, List.singleton_append]
      rw [hchars, List.cons_append] at htakes ⊢
      rw [value_items hblank hclose]
      exact htakes.map Json.arr
  | obj ms =>
    cases ms with
    | nil => exact .of_eq rfl
    | cons m more =>
      rw [chars, List.length_cons, List.length_append] at hfuel
      obtain ⟨hdistinct, hms⟩ := Bool.and_eq_true_iff.mp hkeys
      have htakes := hmembers (m :: more) rest (List.cons_ne_nil _ _) hfinite hms (by omega)
      have hpairs : Assoc.ofPairs (m :: more) = m :: more :=
        Assoc.ofPairs_of_nodup (of_decide_eq_true hdistinct)
      obtain ⟨text, hchars⟩ := memberChars_cons style m more
      rw [chars, List.cons_append, List.append_assoc, List.singleton_append]
      rw [hchars, List.cons_append] at htakes ⊢
      rw [value_members]
      have hmap := htakes.map fun ms => Json.obj (Assoc.ofPairs ms)
      rwa [hpairs] at hmap

/-- What follows a value inside an array or an object is no part of a number. -/
theorem ends_cons {c : Char} (h : c = ',' ∨ c = ']' ∨ c = '}') (rest : List Char) :
    Numeral.Ends (c :: rest) := by
  intro d hd
  obtain rfl := Option.some.inj hd
  obtain rfl | rfl | rfl := h <;> decide

theorem items_step {fuel : Nat} (hstyle : style.Standard) (hvalues : TakesValues style fuel)
    (hitems : TakesItems style fuel) : TakesItems style (fuel + 1) := by
  intro vs rest hne hfinite hkeys hfuel
  cases vs with
  | nil => exact absurd rfl hne
  | cons v more =>
    obtain ⟨hv, hmore⟩ := Bool.and_eq_true_iff.mp hfinite
    obtain ⟨hvkeys, hmorekeys⟩ := Bool.and_eq_true_iff.mp hkeys
    rw [items, allItems]
    cases more with
    | nil =>
      rw [itemChars] at hfuel ⊢
      have htakes := hvalues v (']' :: rest) hv hvkeys (by omega) (ends_cons (by simp) rest)
      exact htakes.andThen (.of_eq rfl)
    | cons w more =>
      obtain ⟨blanks, hblanks, hseparator⟩ := hstyle.item
      obtain ⟨c, text, hchars, hblank, -⟩ :=
        itemChars_cons style more (Bool.and_eq_true_iff.mp hmore).1
      rw [itemChars_cons_cons, hseparator] at hfuel ⊢
      simp only [List.length_append, List.length_cons] at hfuel
      simp only [List.append_assoc, List.cons_append]
      have htakes := hvalues v (',' :: (blanks ++ (itemChars style (w :: more) ++ ']' :: rest))) hv
        hvkeys (by omega) (ends_cons (by simp) _)
      refine htakes.andThen ?_
      show ((items fuel (skipBlank (blanks ++ (itemChars style (w :: more) ++ ']' :: rest)))).andThen
        fun more rest => .ok (v :: more, rest)).Takes _ _ _
      rw [skipBlank_append hblanks, hchars, List.cons_append, skipBlank_cons hblank,
        ← List.cons_append, ← hchars]
      exact (hitems (w :: more) rest (List.cons_ne_nil _ _) hmore hmorekeys (by omega)).map (v :: ·)

theorem members_step {fuel : Nat} (hstyle : style.Standard) (hvalues : TakesValues style fuel)
    (hmembers : TakesMembers style fuel) : TakesMembers style (fuel + 1) := by
  intro ms rest hne hfinite hkeys hfuel
  cases ms with
  | nil => exact absurd rfl hne
  | cons m more =>
    obtain ⟨k, v⟩ := m
    obtain ⟨hv, hmore⟩ := Bool.and_eq_true_iff.mp hfinite
    obtain ⟨hvkeys, hmorekeys⟩ := Bool.and_eq_true_iff.mp hkeys
    obtain ⟨blanks, hblanks, hcolon⟩ := hstyle.key
    obtain ⟨c, text, hchars, hblank, -⟩ := chars_cons style hv
    have hskip (tail : List Char) :
        skipBlank (blanks ++ (chars style v ++ tail)) = chars style v ++ tail := by
      rw [skipBlank_append hblanks, hchars, List.cons_append, skipBlank_cons hblank]
    rw [allMembers]
    cases more with
    | nil =>
      rw [memberChars, hcolon] at hfuel ⊢
      simp only [List.length_append, List.length_cons] at hfuel
      simp only [List.append_assoc, List.cons_append]
      rw [members_quoted, hskip]
      have htakes := hvalues v ('}' :: rest) hv hvkeys (by omega) (ends_cons (by simp) rest)
      exact htakes.andThen (.of_eq rfl)
    | cons m more =>
      obtain ⟨between, hbetween, hcomma⟩ := hstyle.item
      obtain ⟨next, hnext⟩ := memberChars_cons style m more
      rw [memberChars_cons_cons, hcolon, hcomma] at hfuel ⊢
      simp only [List.length_append, List.length_cons] at hfuel
      simp only [List.append_assoc, List.cons_append]
      rw [members_quoted, hskip]
      have htakes := hvalues v (',' :: (between ++ (memberChars style (m :: more) ++ '}' :: rest)))
        hv hvkeys (by omega) (ends_cons (by simp) _)
      refine htakes.andThen ?_
      show ((members fuel (skipBlank (between ++
        (memberChars style (m :: more) ++ '}' :: rest)))).andThen
          fun more rest => .ok ((k, v) :: more, rest)).Takes _ _ _
      rw [skipBlank_append hbetween, hnext, List.cons_append, skipBlank_cons rfl,
        ← List.cons_append, ← hnext]
      exact (hmembers (m :: more) rest (List.cons_ne_nil _ _) hmore hmorekeys (by omega)).map
        ((k, v) :: ·)

/-- Whatever its fuel, the reader takes back the values that the fuel is enough for. -/
theorem takes_all (hstyle : style.Standard) (fuel : Nat) :
    TakesValues style fuel ∧ TakesItems style fuel ∧ TakesMembers style fuel := by
  induction fuel with
  | zero =>
    refine ⟨?_, fun vs rest _ _ _ h => absurd h (Nat.not_lt_zero _),
      fun ms rest _ _ _ h => absurd h (Nat.not_lt_zero _)⟩
    intro v rest hfinite _ hfuel _
    obtain ⟨c, more, hchars, -⟩ := chars_cons style hfinite
    rw [hchars, List.length_cons] at hfuel
    omega
  | succ fuel ih =>
    obtain ⟨hvalues, hitems, hmembers⟩ := ih
    exact ⟨value_step hitems hmembers, items_step hstyle hvalues hitems,
      members_step hstyle hvalues hmembers⟩

/-- A written value is read back, unless an integer in it has more digits than are read. -/
theorem read_chars (hstyle : style.Standard) {v : Json} (hfinite : v.allFinite = true)
    (hkeys : v.all distinctKeys = true) :
    (v.all withinDigits = true → read (chars style v) = .ok v) ∧
      (v.all withinDigits = false → ∃ e, read (chars style v) = .error e) := by
  obtain ⟨c, more, hchars, hblank, -⟩ := chars_cons style hfinite
  have hskip : skipBlank (chars style v) = chars style v := by
    rw [hchars, skipBlank_cons hblank]
  have htakes := (takes_all hstyle (2 * (chars style v).length + 2)).1 v [] hfinite hkeys
    (Nat.le_add_right _ 2) nofun
  rw [List.append_nil] at htakes
  unfold read
  rw [hskip]
  refine ⟨fun hok => ?_, fun hok => ?_⟩
  · rw [htakes.taken hok]
    rfl
  · obtain ⟨failure, hfailure⟩ := htakes.refused hok
    rw [hfailure]
    exact ⟨_, rfl⟩

end Json

end RegistryGateway
