import RegistryGateway.Client.Headers
import RegistryGateway.Proofs.Percent
import RegistryGateway.Text.Case
import Mathlib.Data.List.Basic

/-! Letter case is settled at once.  The letters of a text in upper case are their own upper case,
and so for lower case, where no capital sigma is left for the rule of the final form to apply to.
So both are idempotent on every text.  The tables are compared as sets of code points. -/

namespace RegistryGateway

namespace Unicode

/-! ## Sets of code points -/

/-- A set of code points as the bits of a number, in which two sets are compared at once. -/
def codeSet : List Nat → Nat
  | [] => 0
  | code :: rest => 1 <<< code ||| codeSet rest

theorem testBit_codeSet (codes : List Nat) (n : Nat) :
    (codeSet codes).testBit n = true ↔ n ∈ codes := by
  induction codes with
  | nil => simp [codeSet]
  | cons code rest ih =>
    rw [codeSet, Nat.testBit_or, Bool.or_eq_true, ih, Nat.one_shiftLeft, Nat.testBit_two_pow,
      decide_eq_true_eq, List.mem_cons, eq_comm]

theorem not_mem_of_codeSet {first second : List Nat}
    (h : codeSet first &&& codeSet second = 0) {n : Nat} (hn : n ∈ first) : n ∉ second := by
  intro hmem
  have hbit : (codeSet first &&& codeSet second).testBit n = true := by
    rw [Nat.testBit_and, (testBit_codeSet first n).mpr hn, (testBit_codeSet second n).mpr hmem]
    rfl
  rw [h, Nat.zero_testBit] at hbit
  cases hbit

/-! ## Runs -/

/-- The code points on a run. -/
def CaseRun.points (r : CaseRun) : List Nat :=
  (List.range' r.first (r.last + 1 - r.first)).filter r.holds

/-- The code points that those on a run lead to. -/
def CaseRun.images (r : CaseRun) : List Nat :=
  r.points.map fun n : Nat => ((n : Int) + r.distance).toNat

theorem CaseRun.mem_points_iff (r : CaseRun) (n : Nat) : n ∈ r.points ↔ r.holds n = true := by
  rw [points, List.mem_filter, List.mem_range'_1, and_iff_right_iff_imp]
  intro h
  simp only [holds, Bool.and_eq_true, decide_eq_true_eq] at h
  omega

/-- A code point that is on no run is left alone; any other is led to the end of its run. -/
theorem alongRun_cases (runs : List CaseRun) (n : Nat) :
    n ∉ runs.flatMap (·.points) ∧ alongRun runs n = n ∨
      n ∈ runs.flatMap (·.points) ∧ alongRun runs n ∈ runs.flatMap (·.images) := by
  simp only [List.mem_flatMap, CaseRun.mem_points_iff, alongRun]
  cases hfind : runs.find? (·.holds n) with
  | none =>
    rw [List.find?_eq_none] at hfind
    exact .inl ⟨fun ⟨r, hr, hholds⟩ => hfind r hr hholds, rfl⟩
  | some r =>
    have hr := List.mem_of_find?_eq_some hfind
    have hholds := List.find?_some hfind
    exact .inr ⟨⟨r, hr, hholds⟩, r, hr,
      List.mem_map.mpr ⟨n, (r.mem_points_iff n).mpr hholds, rfl⟩⟩

theorem charOfCode_alongRun {runs : List CaseRun} {c : Char}
    (h : c.toNat ∉ runs.flatMap (·.points)) : charOfCode (alongRun runs c.toNat) = c := by
  obtain ⟨-, heq⟩ | ⟨hmem, -⟩ := alongRun_cases runs c.toNat
  · rw [heq, charOfCode_toNat]
  · exact absurd hmem h

/-- A code point that all runs but the first are above. -/
theorem alongRun_of_lt {first : CaseRun} {rest : List CaseRun} {n : Nat}
    (h : ∀ r ∈ rest, n < r.first) :
    alongRun (first :: rest) n =
      if first.holds n then ((n : Int) + first.distance).toNat else n := by
  have hrest : rest.find? (·.holds n) = none := by
    rw [List.find?_eq_none]
    intro r hr hholds
    have habove := h r hr
    simp only [CaseRun.holds, Bool.and_eq_true, decide_eq_true_eq] at hholds
    omega
  rw [alongRun, List.find?_cons, hrest]
  cases first.holds n <;> rfl

/-! ## The tables -/

/-- What letters lead to is apart from some code points, and so is the replacement of what is no
character. -/
def Apart (ends moved : List Nat) : Prop := codeSet (0xFFFD :: ends) &&& codeSet moved = 0

instance (ends moved : List Nat) : Decidable (Apart ends moved) :=
  inferInstanceAs (Decidable (codeSet (0xFFFD :: ends) &&& codeSet moved = 0))

theorem Apart.toNat_charOfCode {ends moved : List Nat} (h : Apart ends moved) {n : Nat}
    (hn : n ∈ ends) : (charOfCode n).toNat ∉ moved := by
  by_cases hvalid : n.isValidChar
  · rw [charOfCode, if_pos hvalid, Char.ofNat, dif_pos hvalid]
    exact not_mem_of_codeSet h (List.mem_cons_of_mem _ hn)
  · rw [charOfCode, if_neg hvalid]
    exact not_mem_of_codeSet h List.mem_cons_self

/-- A letter on no run stays as it is, so only then need it be apart itself. -/
theorem Apart.toNat_alongRun {runs : List CaseRun} {ends moved : List Nat} (h : Apart ends moved)
    (hruns : runs.flatMap (·.images) ⊆ ends) {c : Char}
    (hc : c.toNat ∉ runs.flatMap (·.points) → c.toNat ∉ moved) :
    (charOfCode (alongRun runs c.toNat)).toNat ∉ moved := by
  obtain ⟨hnot, heq⟩ | ⟨-, hmem⟩ := alongRun_cases runs c.toNat
  · rw [heq, charOfCode_toNat]
    exact hc hnot
  · exact h.toNat_charOfCode (hruns hmem)

/-- The code points of the letters that are not their own upper case. -/
def smallCodes : List Nat := upperExpansions.map (·.1) ++ upperRuns.flatMap (·.points)

/-- The code points of the letters that others have in upper case. -/
def raisedCodes : List Nat := upperExpansions.flatMap (·.2) ++ upperRuns.flatMap (·.images)

theorem raisedCodes_apart : Apart raisedCodes smallCodes := by
  decide +kernel

/-- The code points of the letters that are not their own lower case. -/
def capitalCodes : List Nat := 0x130 :: lowerRuns.flatMap (·.points)

/-- The code points of the letters that others have in lower case. -/
def loweredCodes : List Nat := 'i'.toNat :: 0x307 :: lowerRuns.flatMap (·.images)

theorem loweredCodes_apart : Apart loweredCodes capitalCodes := by
  decide +kernel

/-! ## Maps of letters -/

/-- A map of letters that leaves alone every letter but those with some code points, and never leads
to one of these. -/
structure Settles (letters : Char → List Char) (moved : List Nat) : Prop where
  fixed : ∀ c, c.toNat ∉ moved → letters c = [c]
  settled : ∀ c, ∀ d ∈ letters c, d.toNat ∉ moved

theorem Settles.flatMap_flatMap {letters : Char → List Char} {moved : List Nat}
    (h : Settles letters moved) (text : List Char) :
    (text.flatMap letters).flatMap letters = text.flatMap letters := by
  have hfixed : ∀ d ∈ text.flatMap letters, letters d = [d] := by
    intro d hd
    obtain ⟨c, -, hc⟩ := List.mem_flatMap.mp hd
    exact h.fixed d (h.settled c d hc)
  rw [List.flatMap_congr hfixed]
  exact List.flatMap_singleton' _

/-! ## Upper case -/

theorem find?_upperExpansions_eq_none_iff (n : Nat) :
    upperExpansions.find? (·.1 == n) = none ↔ n ∉ upperExpansions.map (·.1) := by
  rw [List.find?_eq_none, List.mem_map, not_exists]
  simp only [beq_iff_eq, not_and]

/-- ASCII letters are on a run like all others. -/
theorem upperChar_eq (c : Char) :
    upperChar c = match upperExpansions.find? (·.1 == c.toNat) with
      | some (_, letters) => letters.map charOfCode
      | none => [charOfCode (alongRun upperRuns c.toNat)] := by
  by_cases h : c.toNat < 0x80
  · have hexpansions : ∀ n ∈ upperExpansions.map (·.1), 0x80 ≤ n := by decide
    have hruns : upperRuns.tail.all (0x80 ≤ ·.first) = true := by decide
    have hascii : upperChar c =
        [charOfCode (if CaseRun.holds ⟨97, 122, 1, -32⟩ c.toNat then
          ((c.toNat : Int) + -32).toNat else c.toNat)] :=
      Url.of_toNat_lt (p := fun c => upperChar c =
        [charOfCode (if CaseRun.holds ⟨97, 122, 1, -32⟩ c.toNat then
          ((c.toNat : Int) + -32).toNat else c.toNat)]) (by decide) h
    have hnone : upperExpansions.find? (·.1 == c.toNat) = none :=
      (find?_upperExpansions_eq_none_iff _).mpr fun hmem =>
        absurd h (Nat.not_lt.mpr (hexpansions _ hmem))
    simp only [List.all_eq_true, decide_eq_true_eq] at hruns
    rw [hascii, hnone, ← alongRun_of_lt fun r hr => Nat.lt_of_lt_of_le h (hruns r hr)]
    rfl
  · exact if_neg h

theorem upperChar_settles : Settles upperChar smallCodes where
  fixed c hc := by
    rw [smallCodes, List.mem_append, not_or] at hc
    rw [upperChar_eq, (find?_upperExpansions_eq_none_iff _).mpr hc.1]
    simp only [charOfCode_alongRun hc.2]
  settled c d hd := by
    rw [upperChar_eq] at hd
    split at hd
    next code letters hfind =>
      obtain ⟨n, hn, rfl⟩ := List.mem_map.mp hd
      have hmem : n ∈ upperExpansions.flatMap (·.2) :=
        List.mem_flatMap.mpr ⟨_, List.mem_of_find?_eq_some hfind, hn⟩
      exact raisedCodes_apart.toNat_charOfCode (List.mem_append_left _ hmem)
    next hfind =>
      obtain rfl := List.mem_singleton.mp hd
      refine raisedCodes_apart.toNat_alongRun (List.subset_append_right _ _) fun hnot => ?_
      rw [smallCodes, List.mem_append, not_or]
      exact ⟨(find?_upperExpansions_eq_none_iff _).mp hfind, hnot⟩

theorem upperChar_ne_nil (c : Char) : upperChar c ≠ [] := by
  have hletters : ∀ e ∈ upperExpansions, e.2 ≠ [] := by decide
  rw [upperChar_eq]
  split
  next code letters hfind =>
    exact List.map_eq_nil_iff.not.mpr (hletters _ (List.mem_of_find?_eq_some hfind))
  · exact List.cons_ne_nil _ _

/-! ## Lower case -/

theorem lowerChar_eq (c : Char) :
    lowerChar c = if c.toNat = 0x130 then ['i', charOfCode 0x307]
      else [charOfCode (alongRun lowerRuns c.toNat)] := by
  by_cases h : c.toNat < 0x80
  · have hruns : lowerRuns.tail.all (0x80 ≤ ·.first) = true := by decide
    have hascii : lowerChar c =
        [charOfCode (if CaseRun.holds ⟨65, 90, 1, 32⟩ c.toNat then
          ((c.toNat : Int) + 32).toNat else c.toNat)] :=
      Url.of_toNat_lt (p := fun c => lowerChar c =
        [charOfCode (if CaseRun.holds ⟨65, 90, 1, 32⟩ c.toNat then
          ((c.toNat : Int) + 32).toNat else c.toNat)]) (by decide) h
    have hdot : c.toNat ≠ 0x130 := by omega
    simp only [List.all_eq_true, decide_eq_true_eq] at hruns
    rw [hascii, if_neg hdot,
      ← alongRun_of_lt fun r hr => Nat.lt_of_lt_of_le h (hruns r hr)]
    rfl
  · exact if_neg h

theorem lowerChar_settles : Settles lowerChar capitalCodes where
  fixed c hc := by
    rw [capitalCodes, List.mem_cons, not_or] at hc
    rw [lowerChar_eq, if_neg hc.1, charOfCode_alongRun hc.2]
  settled c d hd := by
    rw [lowerChar_eq] at hd
    split at hd
    · have hmap : d ∈ ['i'.toNat, 0x307].map charOfCode := by
        rwa [List.map_cons, charOfCode_toNat]
      obtain ⟨n, hn, rfl⟩ := List.mem_map.mp hmap
      exact loweredCodes_apart.toNat_charOfCode (List.mem_append_left _ hn)
    next hc =>
      obtain rfl := List.mem_singleton.mp hd
      refine loweredCodes_apart.toNat_alongRun (List.subset_append_right [_, _] _) fun hnot => ?_
      rw [capitalCodes, List.mem_cons, not_or]
      exact ⟨hc, hnot⟩

/-- Text without capitals is its own lower case, whatever stands before it. -/
theorem lowerFrom_of_settled {text : List Char} (h : ∀ c ∈ text, c.toNat ∉ capitalCodes)
    (before : List Char) : lowerFrom before text = text := by
  have hsigma : lowerChar 'Σ' ≠ ['Σ'] := by decide
  induction text generalizing before with
  | nil => rfl
  | cons c rest ih =>
    rw [List.forall_mem_cons] at h
    have hfixed := lowerChar_settles.fixed c h.1
    have hne : c ≠ 'Σ' := by
      rintro rfl
      exact hsigma hfixed
    rw [lowerFrom, if_neg hne, hfixed, ih h.2, List.singleton_append]

/-- No capital is left, in whichever form a sigma comes out. -/
theorem settled_lowerFrom (before text : List Char) :
    ∀ c ∈ lowerFrom before text, c.toNat ∉ capitalCodes := by
  have hfinal : 'ς' ∈ lowerChar 'ς' := by decide
  have hmiddle : 'σ' ∈ lowerChar 'σ' := by decide
  induction text generalizing before with
  | nil => nofun
  | cons c rest ih =>
    rw [lowerFrom]
    intro d hd
    obtain hd | hd := List.mem_append.mp hd
    · split at hd
      · split at hd
        · obtain rfl := List.mem_singleton.mp hd
          exact lowerChar_settles.settled _ _ hfinal
        · obtain rfl := List.mem_singleton.mp hd
          exact lowerChar_settles.settled _ _ hmiddle
      · exact lowerChar_settles.settled c d hd
    · exact ih _ d hd

/-- ASCII text has no final forms, and its lower case is that of its letters. -/
theorem lowerFrom_ascii {text : List Char} (h : ∀ c ∈ text, c.toNat < 0x80) (before : List Char) :
    lowerFrom before text = text.map Char.toLower := by
  induction text generalizing before with
  | nil => rfl
  | cons c rest ih =>
    rw [List.forall_mem_cons] at h
    have hletter : lowerChar c = [c.toLower] :=
      Url.of_toNat_lt (p := fun c => lowerChar c = [c.toLower]) (by decide) h.1
    have hne : c ≠ 'Σ' := by
      rintro rfl
      exact absurd h.1 (by decide)
    rw [lowerFrom, if_neg hne, hletter, ih h.2, List.singleton_append, List.map_cons]

end Unicode

theorem upper_upper (s : String) : upper (upper s) = upper s := by
  rw [upper, upper, String.toList_ofList, Unicode.upperChar_settles.flatMap_flatMap]

theorem lower_lower (s : String) : lower (lower s) = lower s := by
  rw [lower, lower, String.toList_ofList,
    Unicode.lowerFrom_of_settled (Unicode.settled_lowerFrom [] s.toList)]

/-- Only the empty text has an empty upper case. -/
theorem upper_eq_empty_iff (s : String) : upper s = "" ↔ s = "" := by
  refine ⟨fun h => ?_, by rintro rfl; rfl⟩
  have hnil : s.toList.flatMap Unicode.upperChar = [] := by
    rw [← String.toList_ofList (l := s.toList.flatMap Unicode.upperChar)]
    exact congrArg String.toList h
  cases hs : s.toList with
  | nil => exact String.toList_eq_nil_iff.mp hs
  | cons c rest =>
    rw [hs, List.flatMap_cons] at hnil
    exact absurd (List.append_eq_nil_iff.mp hnil).1 (Unicode.upperChar_ne_nil c)

def IsAscii (s : String) : Prop := ∀ c ∈ s.toList, c.toNat < 0x80

theorem isAscii_iff (s : String) : IsAscii s ↔ s.toList.all (·.toNat < 0x80) = true := by
  simp [IsAscii]

instance (s : String) : Decidable (IsAscii s) := decidable_of_iff _ (isAscii_iff s).symm

theorem lower_of_isAscii {s : String} (h : IsAscii s) : lower s = Client.Headers.fold s :=
  congrArg String.ofList (Unicode.lowerFrom_ascii h [])

end RegistryGateway
