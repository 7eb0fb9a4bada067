import RegistryGateway.Json.Reader
import RegistryGateway.Proofs.Time
import Mathlib.Tactic.Ring

/-! Numbers as text.  A numeral is what the reader takes for a number: a sign, digits, and perhaps a
fraction and an exponent.  Integers are written as numerals that are read back as the same
integer. -/

namespace RegistryGateway

/-! ## Digits -/

theorem toString_toList (n : Nat) : (toString n).toList = Nat.toDigits 10 n := by
  rw [Nat.toString_eq_ofList_toDigits, String.toList_ofList]

theorem isDecimalDigit_of_mem_toDigits {n : Nat} {c : Char} (h : c ∈ Nat.toDigits 10 n) :
    isDecimalDigit c = true :=
  isDecimalDigit_of_isDigit (Nat.isDigit_of_mem_toDigits (by decide) (by decide) h)

theorem decimalValue_append (first second : List Char) :
    decimalValue (first ++ second) =
      decimalValue first * 10 ^ second.length + decimalValue second := by
  unfold decimalValue
  rw [List.foldl_append]
  generalize first.foldl _ 0 = n
  induction second generalizing n with
  | nil => simp
  | cons c rest ih =>
    rw [List.foldl_cons, List.foldl_cons, ih, ih (0 * 10 + _), List.length_cons]
    ring

theorem decimalValue_singleton {n : Nat} (h : n < 10) : decimalValue [n.digitChar] = n := by
  have hall : ∀ n < 10, decimalValue [n.digitChar] = n := by decide
  exact hall n h

theorem decimalValue_toDigits (n : Nat) : decimalValue (Nat.toDigits 10 n) = n := by
  induction n using Nat.strongRecOn with
  | ind n ih =>
    rcases Nat.lt_or_ge n 10 with hlt | hge
    · rw [Nat.toDigits_of_lt_base hlt, decimalValue_singleton hlt]
    · rw [Nat.toDigits_of_base_le (by decide) hge, decimalValue_append, ih (n / 10) (by omega),
        decimalValue_singleton (by omega), List.length_singleton]
      omega

theorem decimalValue_zeros (k : Nat) : decimalValue (List.replicate k '0') = 0 := by
  induction k with
  | zero => rfl
  | succ k ih =>
    rw [List.replicate_succ', decimalValue_append, ih]
    decide

/-- Digits of a positive number do not start with a zero. -/
theorem head?_toDigits {n : Nat} (h : 0 < n) : (Nat.toDigits 10 n).head? ≠ some '0' := by
  induction n using Nat.strongRecOn with
  | ind n ih =>
    rcases Nat.lt_or_ge n 10 with hlt | hge
    · rw [Nat.toDigits_of_lt_base hlt, List.head?_cons]
      intro hzero
      rw [Option.some.injEq, Nat.digitChar_eq_zero] at hzero
      omega
    · rw [Nat.toDigits_of_base_le (by decide) hge, List.head?_append_of_ne_nil _ Nat.toDigits_ne_nil]
      exact ih (n / 10) (by omega) (by omega)

/-- A text does not go on with digits. -/
def EndsDigits (rest : List Char) : Prop := ∀ c, rest.head? = some c → isDecimalDigit c = false

theorem takeWhile_digits {digits rest : List Char} (h : ∀ c ∈ digits, isDecimalDigit c = true)
    (hrest : EndsDigits rest) :
    (digits ++ rest).takeWhile isDecimalDigit = digits ∧
      (digits ++ rest).dropWhile isDecimalDigit = rest := by
  rw [List.takeWhile_append_of_pos h, List.dropWhile_append_of_pos h]
  cases rest with
  | nil => simp
  | cons c more => simp [hrest c rfl]

namespace Json

/-! ## Numerals -/

/-- A number as it is written. -/
structure Numeral where
  negative : Bool
  whole : List Char
  /-- The digits of the fraction; there is no point without them. -/
  places : List Char
  /-- The sign and the digits of the exponent. -/
  power : Option (Bool × List Char)

namespace Numeral

structure WellFormed (n : Numeral) : Prop where
  nonempty : n.whole ≠ []
  whole : ∀ c ∈ n.whole, isDecimalDigit c = true
  leading : n.whole.head? = some '0' → n.whole = ['0']
  places : ∀ c ∈ n.places, isDecimalDigit c = true
  power : ∀ negative digits, n.power = some (negative, digits) →
    digits ≠ [] ∧ ∀ c ∈ digits, isDecimalDigit c = true

def signText (negative : Bool) : List Char := if negative then ['-'] else []

def placesText (places : List Char) : List Char := if places.isEmpty then [] else '.' :: places

def powerText : Option (Bool × List Char) → List Char
  | some (negative, digits) => 'e' :: (if negative then '-' else '+') :: digits
  | none => []

def text (n : Numeral) : List Char :=
  signText n.negative ++ (n.whole ++ (placesText n.places ++ powerText n.power))

def powerValue : Option (Bool × List Char) → Option Int
  | some (negative, digits) =>
    some (if negative then -(decimalValue digits : Int) else decimalValue digits)
  | none => none

def isInteger (n : Numeral) : Bool := n.places.isEmpty && n.power.isNone

/-- The number that a numeral is read as. -/
def value (n : Numeral) : Json :=
  if n.isInteger then
    .int (if n.negative then -(decimalValue n.whole : Int) else decimalValue n.whole)
  else
    .float (Double.ofDecimal n.negative (decimalValue (n.whole ++ n.places))
      ((powerValue n.power).getD 0 - n.places.length))

/-- A text does not go on with what can be part of a number. -/
def Ends (rest : List Char) : Prop :=
  ∀ c, rest.head? = some c → isDecimalDigit c = false ∧ c ≠ '.' ∧ c ≠ 'e' ∧ c ≠ 'E'

theorem fraction_text {places rest : List Char} (h : ∀ c ∈ places, isDecimalDigit c = true)
    (hrest : EndsDigits rest) (hpoint : rest.head? ≠ some '.') :
    fraction (placesText places ++ rest) = (places, rest) := by
  cases places with
  | nil =>
    show fraction rest = ([], rest)
    unfold fraction
    split
    · exact absurd rfl hpoint
    · rfl
  | cons digit more =>
    obtain ⟨htake, hdrop⟩ := takeWhile_digits h hrest
    rw [List.forall_mem_cons] at h
    rw [List.cons_append] at htake hdrop
    show fraction ('.' :: digit :: (more ++ rest)) = _
    simp only [fraction, h.1, if_true, htake, hdrop]

theorem exponent_text {power : Option (Bool × List Char)} {rest : List Char}
    (h : ∀ negative digits, power = some (negative, digits) →
      digits ≠ [] ∧ ∀ c ∈ digits, isDecimalDigit c = true) (hrest : Ends rest) :
    exponent (powerText power ++ rest) = (powerValue power, rest) := by
  cases power with
  | none =>
    show exponent rest = (none, rest)
    cases rest with
    | nil => rfl
    | cons c more =>
      obtain ⟨-, -, he, hE⟩ := hrest c rfl
      simp [exponent, he, hE]
  | some power =>
    obtain ⟨negative, digits⟩ := power
    obtain ⟨hne, hdigits⟩ := h negative digits rfl
    obtain ⟨htake, hdrop⟩ := takeWhile_digits hdigits fun c hc => (hrest c hc).1
    cases negative <;> simp [powerText, exponent, powerValue, htake, hdrop, hne]

/-- The text after the digits in front goes on with no digit. -/
theorem endsDigits_tail {places : List Char} {power : Option (Bool × List Char)}
    {rest : List Char} (hrest : Ends rest) :
    EndsDigits (powerText power ++ rest) ∧
      EndsDigits (placesText places ++ (powerText power ++ rest)) := by
  have hpower : EndsDigits (powerText power ++ rest) := by
    cases power with
    | none => exact fun c hc => (hrest c hc).1
    | some power =>
      rintro c hc
      obtain rfl := Option.some.inj hc
      decide
  refine ⟨hpower, ?_⟩
  cases places with
  | nil => exact hpower
  | cons digit more =>
    rintro c hc
    obtain rfl := Option.some.inj hc
    decide

theorem head?_powerText {power : Option (Bool × List Char)} {rest : List Char}
    (hrest : Ends rest) : (powerText power ++ rest).head? ≠ some '.' := by
  cases power with
  | none => exact fun h => (hrest '.' h).2.1 rfl
  | some power => exact fun h => absurd (Option.some.inj h) (by decide)

/-- The sign in front of a number and what follows it. -/
def splitSign : List Char → Bool × List Char
  | '-' :: rest => (true, rest)
  | rest => (false, rest)

/-- The digits in front of a text as far as they are the whole part of a number. -/
def wholePart : List Char → List Char
  | '0' :: _ => ['0']
  | rest => rest.takeWhile isDecimalDigit

theorem number_eq (start : List Char) :
    number start =
      let whole := wholePart (splitSign start).2
      if whole.isEmpty then .error (.value, start)
      else
        let (places, rest) := fraction ((splitSign start).2.drop whole.length)
        let (power, rest) := exponent rest
        if places.isEmpty && power.isNone then
          if digitLimit < whole.length then .error (.digits whole.length, start)
          else
            let size : Int := decimalValue whole
            .ok (.int (if (splitSign start).1 then -size else size), rest)
        else
          let size := decimalValue (whole ++ places)
          .ok (.float (Double.ofDecimal (splitSign start).1 size (power.getD 0 - places.length)),
            rest) := rfl

theorem wholePart_text {whole rest : List Char} (hne : whole ≠ [])
    (h : ∀ c ∈ whole, isDecimalDigit c = true) (hleading : whole.head? = some '0' → whole = ['0'])
    (hrest : EndsDigits rest) : wholePart (whole ++ rest) = whole := by
  unfold wholePart
  split
  · next more heq =>
    cases whole with
    | nil => exact absurd rfl hne
    | cons c digits =>
      obtain ⟨rfl, -⟩ := List.cons.inj heq
      exact (hleading rfl).symm
  · exact (takeWhile_digits h hrest).1

theorem splitSign_text {n : Numeral} (h : n.WellFormed) (rest : List Char) :
    splitSign (n.text ++ rest) =
      (n.negative, n.whole ++ (placesText n.places ++ (powerText n.power ++ rest))) := by
  have htext : n.text ++ rest = signText n.negative ++
      (n.whole ++ (placesText n.places ++ (powerText n.power ++ rest))) := by
    simp only [text, List.append_assoc]
  rw [htext]
  cases n.negative with
  | true => rfl
  | false =>
    obtain ⟨c, digits, hwhole⟩ := List.exists_cons_of_ne_nil h.nonempty
    have hdigit := h.whole c (by rw [hwhole]; exact List.mem_cons_self)
    rw [hwhole]
    unfold splitSign
    split
    · next heq =>
      obtain ⟨rfl, -⟩ := List.cons.inj heq
      cases hdigit
    · rfl

/-- A numeral is read as its value, unless it is an integer of too many digits. -/
theorem number_text {n : Numeral} (h : n.WellFormed) {rest : List Char} (hrest : Ends rest) :
    number (n.text ++ rest) =
      if n.isInteger = true ∧ digitLimit < n.whole.length then
        .error (.digits n.whole.length, n.text ++ rest)
      else .ok (n.value, rest) := by
  obtain ⟨hpower, htail⟩ := @endsDigits_tail n.places n.power rest hrest
  have hempty : n.whole.isEmpty = false := by simpa using h.nonempty
  rw [number_eq, splitSign_text h]
  dsimp only
  rw [wholePart_text h.nonempty h.whole h.leading htail, hempty]
  simp only [Bool.false_eq_true, if_false, List.drop_left]
  rw [fraction_text h.places hpower (head?_powerText hrest)]
  dsimp only
  rw [exponent_text h.power hrest]
  have hpower : (powerValue n.power).isNone = n.power.isNone := by cases n.power <;> rfl
  simp only [hpower, value, isInteger]
  by_cases hinteger : (n.places.isEmpty && n.power.isNone) = true
  · simp only [hinteger, if_true, true_and]
  · simp only [hinteger, Bool.false_eq_true, if_false, false_and]

/-- The numeral of an integer. -/
def ofInt (i : Int) : Numeral := ⟨i < 0, Nat.toDigits 10 i.natAbs, [], none⟩

theorem leading_toDigits (n : Nat) :
    (Nat.toDigits 10 n).head? = some '0' → Nat.toDigits 10 n = ['0'] := by
  intro h
  rcases Nat.eq_zero_or_pos n with rfl | hpos
  · rfl
  · exact absurd h (head?_toDigits hpos)

theorem ofInt_wellFormed (i : Int) : (ofInt i).WellFormed where
  nonempty := Nat.toDigits_ne_nil
  whole := fun _ => isDecimalDigit_of_mem_toDigits
  leading := leading_toDigits i.natAbs
  places := nofun
  power := nofun

theorem ofInt_text (i : Int) : (toString i).toList = (ofInt i).text := by
  have htext : (ofInt i).text = signText (i < 0) ++ Nat.toDigits 10 i.natAbs := by
    simp [text, ofInt, placesText, powerText]
  rw [htext, Int.toString_eq_repr, Int.repr_eq_if]
  rcases Int.lt_or_le i 0 with hlt | hge
  · have habs : (-i).toNat = i.natAbs := by omega
    rw [if_neg (by omega), habs, String.toList_append, Nat.toList_repr]
    simp [signText, hlt]
  · have habs : i.toNat = i.natAbs := by omega
    rw [if_pos hge, habs, Nat.toList_repr]
    simp [signText, hge]

theorem ofInt_value (i : Int) : (ofInt i).value = .int i := by
  have hvalue : (ofInt i).value =
      .int (if i < 0 then -(decimalValue (Nat.toDigits 10 i.natAbs) : Int)
        else decimalValue (Nat.toDigits 10 i.natAbs)) := by
    simp [value, isInteger, ofInt]
  rw [hvalue, decimalValue_toDigits]
  congr 1
  split <;> omega

/-- Decimals tell integers apart. -/
theorem toString_int_injective : Function.Injective (toString : Int → String) := fun i j h => by
  have htext : (ofInt i).text = (ofInt j).text := by rw [← ofInt_text, ← ofInt_text, h]
  -- what stands behind the sign in front is all digits
  have hi := splitSign_text (ofInt_wellFormed i) []
  have hj := splitSign_text (ofInt_wellFormed j) []
  rw [htext, hj] at hi
  obtain ⟨hnegative, hwhole⟩ := Prod.mk.inj hi
  have hsame : ofInt i = ofInt j := by
    simp only [ofInt, placesText, powerText, List.isEmpty_nil, if_true, List.append_nil]
      at hnegative hwhole ⊢
    rw [hnegative, hwhole]
  have hvalue := congrArg value hsame
  rw [ofInt_value, ofInt_value] at hvalue
  exact Json.int.inj hvalue

end Numeral

end Json

end RegistryGateway
