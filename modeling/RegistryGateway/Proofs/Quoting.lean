import RegistryGateway.Json.Reader
import RegistryGateway.Json.Text
import RegistryGateway.Proofs.Percent
import Mathlib.Algebra.Ring.Nat

/-! Quoted strings are read back: each character of a string is written as one escape, as the two
escapes of its surrogates or as itself, and the reader takes just these off the text again. -/

namespace RegistryGateway

theorem hexDigit?_hexChar : ∀ n < 16, hexDigit? (hexChar n) = some n := by
  decide

theorem length_hexPadded (width n : Nat) : (hexPadded width n).length = width := by
  induction width generalizing n with
  | zero => rfl
  | succ width ih => rw [hexPadded, List.length_append, ih, List.length_singleton]

theorem hexValue?_hexPadded (width n : Nat) :
    hexValue? (hexPadded width n) = some (n % 16 ^ width) := by
  induction width generalizing n with
  | zero => rw [Nat.pow_zero, Nat.mod_one]; rfl
  | succ width ih =>
    have hlast := hexDigit?_hexChar (n % 16) (Nat.mod_lt _ (by decide))
    unfold hexValue? at ih ⊢
    rw [hexPadded, List.foldlM_append, ih]
    simp only [Option.bind_eq_bind, Option.bind_some, List.foldlM_cons, List.foldlM_nil, hlast,
      Option.map_some, Option.pure_def]
    rw [Nat.pow_succ, Nat.mul_comm (16 ^ width), Nat.mod_mul]
    congr 1
    omega

namespace Json

section

variable {n : Nat} (hn : n < 0x10000) {rest : List Char} (hrest : rest ≠ [])

include hn hrest

theorem unit?_hexPadded : unit? (hexPadded 4 n ++ rest) = some n := by
  have hlength := length_hexPadded 4 n
  have hmore := List.length_pos_iff.mpr hrest
  have hvalue : hexValue? (hexPadded 4 n) = some n := by
    rw [hexValue?_hexPadded]
    exact congrArg some (Nat.mod_eq_of_lt hn)
  rw [unit?, if_pos (by rw [List.length_append]; omega), List.take_left' hlength, hvalue]

theorem unicodeEscape_single (h : isHighSurrogate n = false) :
    unicodeEscape ('u' :: (hexPadded 4 n ++ rest)) = .ok (charOfCode n, rest) := by
  rw [unicodeEscape, List.tail_cons]
  simp only [unit?_hexPadded hn hrest, List.drop_left' (length_hexPadded 4 n), h, Bool.false_and,
    Bool.false_eq_true, if_false]
  split <;> rfl

end

/-- The escapes of a surrogate pair are read as one character. -/
theorem unicodeEscape_pair {high low : Nat} (hhigh : isHighSurrogate high = true)
    (hlow : isLowSurrogate low = true) {rest : List Char} (hrest : rest ≠ []) :
    unicodeEscape ('u' :: (hexPadded 4 high ++ (unitEscape low ++ rest))) =
      .ok (joinSurrogates high low, rest) := by
  have hhigh' : high < 0x10000 := by
    simp only [isHighSurrogate, Bool.and_eq_true, decide_eq_true_eq] at hhigh
    omega
  have hlow' : low < 0x10000 := by
    simp only [isLowSurrogate, Bool.and_eq_true, decide_eq_true_eq] at hlow
    omega
  have hunit := unit?_hexPadded hlow' hrest
  rw [unit?] at hunit
  split at hunit
  · next hlength =>
    have hfirst : unit? (hexPadded 4 high ++ (unitEscape low ++ rest)) = some high :=
      unit?_hexPadded hhigh' nofun
    rw [unicodeEscape, List.tail_cons]
    simp only [hfirst]
    simp only [List.drop_left' (length_hexPadded 4 high), unitEscape, List.cons_append, hhigh,
      hlength, decide_true, Bool.and_self, if_true, hunit, hlow,
      List.drop_left' (length_hexPadded 4 low)]
  · cases hunit

/-- The text from the `u` of a code point's escape on is read as the character. -/
theorem unicodeEscape_codeEscape (c : Char) {rest : List Char} (hrest : rest ≠ []) :
    ∃ fromU, codeEscape c = '\\' :: 'u' :: fromU ∧
      unicodeEscape ('u' :: (fromU ++ rest)) = .ok (c, rest) := by
  have hvalid : c.toNat < 0xD800 ∨ 0xDFFF < c.toNat ∧ c.toNat < 0x110000 := c.valid
  have hcode := charOfCode_toNat c
  unfold codeEscape
  generalize c.toNat = n at hvalid hcode
  rcases Nat.lt_or_ge n 0x10000 with hlt | hge
  · have hhigh : isHighSurrogate n = false := by
      simp only [isHighSurrogate, Bool.and_eq_false_iff, decide_eq_false_iff_not]
      omega
    refine ⟨hexPadded 4 n, if_pos hlt, ?_⟩
    rw [unicodeEscape_single hlt hrest hhigh, hcode]
  · have hhigh : isHighSurrogate (0xD800 + (n - 0x10000) / 0x400) = true := by
      simp only [isHighSurrogate, Bool.and_eq_true, decide_eq_true_eq]
      omega
    have hlow : isLowSurrogate (0xDC00 + (n - 0x10000) % 0x400) = true := by
      simp only [isLowSurrogate, Bool.and_eq_true, decide_eq_true_eq]
      omega
    have hjoin : 0x10000 + (0xD800 + (n - 0x10000) / 0x400 - 0xD800) * 0x400 +
        (0xDC00 + (n - 0x10000) % 0x400 - 0xDC00) = n := by
      omega
    refine ⟨hexPadded 4 (0xD800 + (n - 0x10000) / 0x400) ++
      unitEscape (0xDC00 + (n - 0x10000) % 0x400), if_neg (Nat.not_lt.mpr hge), ?_⟩
    rw [List.append_assoc, unicodeEscape_pair hhigh hlow hrest, joinSurrogates, hjoin, hcode]

section

variable (opening : List Char) (fuel : Nat) (seen rest : List Char)

theorem stringTail_short {letter c : Char} (h : shortEscape? letter = some c) :
    stringTail opening (fuel + 1) seen ('\\' :: letter :: rest) =
      stringTail opening fuel (c :: seen) rest := by
  have hu : letter ≠ 'u' := by
    rintro rfl
    cases h
  rw [stringTail, h]
  exact hu

theorem stringTail_plain {c : Char} (hquote : c ≠ '"') (hescape : c ≠ '\\') (h : ¬c.toNat < 0x20) :
    stringTail opening (fuel + 1) seen (c :: rest) = stringTail opening fuel (c :: seen) rest := by
  simp [stringTail, hescape, h]

theorem stringTail_codeEscape (c : Char) (hrest : rest ≠ []) :
    stringTail opening (fuel + 1) seen (codeEscape c ++ rest) =
      stringTail opening fuel (c :: seen) rest := by
  obtain ⟨fromU, hescape, hread⟩ := unicodeEscape_codeEscape c hrest
  rw [hescape, List.cons_append, List.cons_append, stringTail, hread, Step.andThen]

/-- What a character is written as is read as the character. -/
theorem stringTail_escapeChar (asciiOnly : Bool) (c : Char) (hrest : rest ≠ []) :
    stringTail opening (fuel + 1) seen (escapeChar asciiOnly c ++ rest) =
      stringTail opening fuel (c :: seen) rest := by
  have hshort {letter : Char} (h : shortEscape? letter = some c) :=
    stringTail_short opening fuel seen rest h
  have hcode := stringTail_codeEscape opening fuel seen rest c hrest
  unfold escapeChar
  split
  · next h => exact hshort (congrArg some h.symm)
  split
  · next h => exact hshort (congrArg some h.symm)
  split
  · next h => exact hshort (congrArg some h.symm)
  split
  · next h => exact hshort (congrArg some h.symm)
  split
  · next h => exact hshort (congrArg some h.symm)
  split
  · next h => exact hshort (congrArg some h.symm)
  split
  · next h => exact hshort (congrArg some h.symm)
  split
  · exact hcode
  split
  · exact hcode
  · next hquote hescape _ _ _ _ _ hcontrol _ =>
    exact stringTail_plain opening fuel seen rest hquote hescape hcontrol

theorem stringTail_quoted (asciiOnly : Bool) (text : List Char) (hfuel : text.length < fuel) :
    stringTail opening fuel seen (text.flatMap (escapeChar asciiOnly) ++ '"' :: rest) =
      .ok (String.ofList (seen.reverse ++ text), rest) := by
  obtain ⟨fuel, rfl⟩ : ∃ k, fuel = k + 1 := ⟨fuel - 1, by omega⟩
  induction text generalizing fuel seen with
  | nil => simp [stringTail]
  | cons c text ih =>
    rw [List.length_cons] at hfuel
    obtain ⟨fuel, rfl⟩ : ∃ k, fuel = k + 1 := ⟨fuel - 1, by omega⟩
    rw [List.flatMap_cons, List.append_assoc,
      stringTail_escapeChar opening _ seen _ asciiOnly c (by simp),
      ih (c :: seen) fuel (by omega), List.reverse_cons, List.append_assoc, List.singleton_append]

end

theorem escapeChar_ne_nil (asciiOnly : Bool) (c : Char) : escapeChar asciiOnly c ≠ [] := by
  have hcode : codeEscape c ≠ [] := by
    obtain ⟨fromU, hescape, -⟩ := unicodeEscape_codeEscape c (List.cons_ne_nil '"' [])
    rw [hescape]
    exact List.cons_ne_nil _ _
  unfold escapeChar
  repeat' split
  all_goals first | exact hcode | exact List.cons_ne_nil _ _

/-- A quoted string is read as the string. -/
theorem string_quoted (asciiOnly : Bool) (s : String) (rest : List Char) :
    string (quoted asciiOnly s ++ rest) = .ok (s, rest) := by
  have htext : quoted asciiOnly s ++ rest =
      '"' :: (s.toList.flatMap (escapeChar asciiOnly) ++ '"' :: rest) := by
    simp [quoted]
  have hlength : s.toList.length ≤ (s.toList.flatMap (escapeChar asciiOnly)).length := by
    generalize s.toList = text
    induction text with
    | nil => exact Nat.zero_le _
    | cons c text ih =>
      have hpos := List.length_pos_iff.mpr (escapeChar_ne_nil asciiOnly c)
      rw [List.flatMap_cons, List.length_append, List.length_cons]
      omega
  rw [htext, string, List.tail_cons, stringTail_quoted]
  · rw [List.reverse_nil, List.nil_append, String.ofList_toList]
  · rw [List.length_cons, List.length_append]
    omega

end Json

end RegistryGateway
