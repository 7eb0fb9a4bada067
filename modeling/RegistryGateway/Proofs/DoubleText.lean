import RegistryGateway.Double.Shortest
import RegistryGateway.Proofs.Numeral
import RegistryGateway.Proofs.Shortest

/-! Doubles as text.  The text of a finite double is a numeral of the digits of its shortest
decimal, so it is read back as the double. -/

namespace RegistryGateway.Json

namespace Numeral

/-- The value of the digits with the exponent. -/
def decimal (n : Numeral) : ℚ :=
  Double.decimal (decimalValue (n.whole ++ n.places))
    ((powerValue n.power).getD 0 - n.places.length)

def ofPositional (negative : Bool) (digits : List Char) (point : Int) : Numeral :=
  if point ≤ 0 then ⟨negative, ['0'], List.replicate (-point).toNat '0' ++ digits, none⟩
  else
    let whole := digits.take point.toNat
    let fraction := digits.drop point.toNat
    ⟨negative, whole ++ List.replicate (point.toNat - whole.length) '0',
      if fraction.isEmpty then ['0'] else fraction, none⟩

def ofScientific (layout : Double.Layout) (negative : Bool) (digits : List Char)
    (exponent : Int) : Numeral :=
  let size := Nat.toDigits 10 exponent.natAbs
  ⟨negative, digits.take 1, digits.drop 1,
    some (exponent < 0, List.replicate (layout.exponentWidth - size.length) '0' ++ size)⟩

/-- The numeral of a finite double. -/
def ofDouble (layout : Double.Layout) (d : Double) : Numeral :=
  if d.significand = 0 then ⟨d.negative, ['0'], ['0'], none⟩
  else
    let digits := Nat.toDigits 10 d.written.1
    let point := d.written.2 + digits.length
    if layout.leastPositional ≤ point - 1 ∧ point - 1 ≤ layout.mostPositional then
      ofPositional d.negative digits point
    else ofScientific layout d.negative digits (point - 1)

section

variable (negative : Bool) {digits : List Char} (hne : digits ≠ [])

include hne

theorem ofPositional_text (point : Int) :
    (ofPositional negative digits point).text =
      signText negative ++ Double.positional digits point := by
  unfold ofPositional Double.positional
  split
  · simp [text, placesText, powerText, hne]
  · by_cases hfraction : (digits.drop point.toNat).isEmpty = true
    · simp [text, placesText, powerText, hfraction]
    · simp [text, placesText, powerText, hfraction]

theorem ofScientific_text (layout : Double.Layout) (exponent : Int) :
    (ofScientific layout negative digits exponent).text =
      signText negative ++ Double.scientific layout digits exponent := by
  obtain ⟨first, rest, rfl⟩ := List.exists_cons_of_ne_nil hne
  cases rest <;>
    simp [text, ofScientific, Double.scientific, placesText, powerText]

end

section

variable (negative : Bool) {c : Nat} (hc : 0 < c)

include hc

theorem ofPositional_wellFormed (point : Int) :
    (ofPositional negative (Nat.toDigits 10 c) point).WellFormed := by
  have hdigits : ∀ x ∈ Nat.toDigits 10 c, isDecimalDigit x = true :=
    fun _ => isDecimalDigit_of_mem_toDigits
  have hzeros (k : Nat) : ∀ x ∈ List.replicate k '0', isDecimalDigit x = true := by
    intro x hx
    rw [List.eq_of_mem_replicate hx]
    decide
  have hzero : ∀ x ∈ ['0'], isDecimalDigit x = true := hzeros 1
  unfold ofPositional
  split
  · refine ⟨by simp, hzero, fun _ => rfl, fun x hx => ?_, nofun⟩
    obtain hx | hx := List.mem_append.mp hx
    · exact hzeros _ x hx
    · exact hdigits x hx
  · next hpoint =>
    obtain ⟨first, rest, hcons⟩ := List.exists_cons_of_ne_nil (Nat.toDigits_ne_nil (n := c) (b := 10))
    obtain ⟨k, hk⟩ : ∃ k, point.toNat = k + 1 := ⟨point.toNat - 1, by omega⟩
    have hfirst := head?_toDigits hc
    rw [hcons] at hdigits hfirst
    rw [hcons, hk]
    refine ⟨by simp, fun x hx => ?_, fun h => absurd h hfirst, fun x hx => ?_, nofun⟩
    · obtain hx | hx := List.mem_append.mp hx
      · exact hdigits x (List.mem_of_mem_take hx)
      · exact hzeros _ x hx
    · dsimp only at hx
      split at hx
      · exact hzero x hx
      · exact hdigits x (List.mem_of_mem_drop hx)

theorem ofScientific_wellFormed (layout : Double.Layout) (exponent : Int) :
    (ofScientific layout negative (Nat.toDigits 10 c) exponent).WellFormed := by
  have hdigits : ∀ x ∈ Nat.toDigits 10 c, isDecimalDigit x = true :=
    fun _ => isDecimalDigit_of_mem_toDigits
  obtain ⟨first, rest, hcons⟩ := List.exists_cons_of_ne_nil (Nat.toDigits_ne_nil (n := c) (b := 10))
  have hfirst := head?_toDigits hc
  rw [ofScientific]
  rw [hcons] at hdigits hfirst ⊢
  refine ⟨by simp, fun x hx => hdigits x (List.mem_of_mem_take hx), fun h => absurd h hfirst,
    fun x hx => hdigits x (List.mem_of_mem_drop hx), fun sign size h => ?_⟩
  obtain ⟨rfl, rfl⟩ := Prod.mk.inj (Option.some.inj h)
  refine ⟨by simp, fun x hx => ?_⟩
  obtain hx | hx := List.mem_append.mp hx
  · rw [List.eq_of_mem_replicate hx]
    decide
  · exact isDecimalDigit_of_mem_toDigits hx

end

section

variable (negative : Bool) (c : Nat) (p : Int)

theorem ofPositional_decimal :
    (ofPositional negative (Nat.toDigits 10 c) (p + (Nat.toDigits 10 c).length)).decimal =
      Double.decimal c p := by
  have hvalue := decimalValue_toDigits c
  generalize Nat.toDigits 10 c = digits at *
  have hzero : decimalValue ['0'] = 0 := by decide
  unfold ofPositional
  split
  · next hpoint =>
    simp only [decimal, decimalValue_append, decimalValue_zeros, hzero, hvalue, Nat.zero_mul,
      Nat.zero_add, powerValue, Option.getD_none, List.length_append, List.length_replicate]
    congr 1
    push_cast
    omega
  · next hpoint =>
    rcases Int.lt_or_le p 0 with hneg | hnonneg
    · -- The point stands among the digits.
      have hlength : (p + digits.length).toNat < digits.length := by omega
      have hfraction : (digits.drop (p + digits.length).toNat).isEmpty = false := by
        simpa using hlength
      have htake : (digits.take (p + digits.length).toNat).length = (p + digits.length).toNat :=
        List.length_take_of_le hlength.le
      simp only [decimal, hfraction, htake, Nat.sub_self, List.replicate_zero, List.append_nil,
        Bool.false_eq_true, if_false, List.take_append_drop, hvalue, powerValue, Option.getD_none,
        List.length_drop]
      congr 1
      omega
    · -- Zeros stand between the digits and the point.
      have hlength : digits.length ≤ (p + digits.length).toNat := by omega
      have hzeros : (p + digits.length).toNat - digits.length = p.toNat := by omega
      have hpow := zpow_of_nonneg 10 hnonneg
      simp only [decimal, List.take_of_length_le hlength, List.drop_of_length_le hlength, hzeros,
        List.isEmpty_nil, if_true, decimalValue_append, decimalValue_zeros, hzero, hvalue,
        powerValue, Option.getD_none, List.length_replicate, List.length_singleton,
        Double.decimal, hpow]
      norm_num
      ring

theorem ofScientific_decimal (layout : Double.Layout) :
    (ofScientific layout negative (Nat.toDigits 10 c)
      (p + (Nat.toDigits 10 c).length - 1)).decimal = Double.decimal c p := by
  have hvalue := decimalValue_toDigits c
  have hlength := List.length_pos_of_ne_nil (Nat.toDigits_ne_nil (n := c) (b := 10))
  generalize Nat.toDigits 10 c = digits at *
  simp only [decimal, ofScientific, List.take_append_drop, hvalue, powerValue,
    decimalValue_append, decimalValue_zeros, decimalValue_toDigits, Nat.zero_mul, Nat.zero_add,
    Option.getD_some, List.length_drop, decide_eq_true_eq]
  congr 1
  split <;> omega

end

theorem ofDouble_negative (layout : Double.Layout) (d : Double) :
    (ofDouble layout d).negative = d.negative := by
  unfold ofDouble ofPositional ofScientific
  dsimp only
  split
  · rfl
  · split
    · split <;> rfl
    · rfl

theorem ofDouble_isInteger (layout : Double.Layout) (d : Double) :
    (ofDouble layout d).isInteger = false := by
  unfold ofDouble ofPositional ofScientific
  dsimp only
  split
  · rfl
  · split
    · split
      · simp [isInteger, Nat.toDigits_ne_nil]
      · unfold isInteger
        dsimp only
        split
        · rfl
        · next hfraction =>
          rw [Bool.eq_false_iff.mpr hfraction]
          rfl
    · simp [isInteger]

theorem ofDouble_decimal (layout : Double.Layout) {d : Double} (hd : 0 < d.significand) :
    (ofDouble layout d).decimal = Double.decimal d.written.1 d.written.2 := by
  rw [ofDouble, if_neg hd.ne']
  dsimp only
  split
  · exact ofPositional_decimal _ _ _
  · exact ofScientific_decimal _ _ _ layout

section

variable (layout : Double.Layout) {d : Double} (hfinite : d.isFinite = true)

include hfinite

theorem ofDouble_text : (d.textIn layout).toList = (ofDouble layout d).text := by
  have hnan := Double.isNaN_of_isFinite hfinite
  have hinfinite : d.isInfinite = false := by
    unfold Double.isFinite at hfinite
    unfold Double.isInfinite
    simp only [decide_eq_true_eq] at hfinite
    simp only [beq_eq_false_iff_ne, ne_eq]
    omega
  have htext : (d.textIn layout).toList = signText d.negative ++ d.magnitudeText layout := by
    rw [Double.textIn, hnan, hinfinite]
    cases d.negative <;> simp [signText]
  rw [htext, Double.magnitudeText_eq, ofDouble, toString_toList]
  split
  · simp [text, placesText, powerText]
  · dsimp only
    split
    · exact (ofPositional_text _ Nat.toDigits_ne_nil _).symm
    · exact (ofScientific_text _ Nat.toDigits_ne_nil layout _).symm

theorem written_pos (hd : 0 < d.significand) : 0 < d.written.1 :=
  ((Double.nearest_written hfinite hd).exponent_bounds hfinite hd).1

theorem ofDouble_wellFormed : (ofDouble layout d).WellFormed := by
  rw [ofDouble]
  split
  · exact ⟨by simp, by simp; decide, fun _ => rfl, by simp; decide, nofun⟩
  · next hd =>
    have hpos := written_pos hfinite (Nat.pos_of_ne_zero hd)
    dsimp only
    split
    · exact ofPositional_wellFormed _ hpos _
    · exact ofScientific_wellFormed _ hpos layout _

theorem ofDouble_value : (ofDouble layout d).value = .float d := by
  have hsign : (ofDouble layout d).negative = d.negative := ofDouble_negative layout d
  rw [value, ofDouble_isInteger]
  simp only [Bool.false_eq_true, if_false, hsign]
  congr 1
  rcases Nat.eq_zero_or_pos d.significand with hzero | hpos
  · have hdigits : decimalValue ['0', '0'] = 0 := by decide
    rw [ofDouble, if_pos hzero]
    simp only [List.singleton_append, hdigits]
    exact Double.ofDecimal_zero hzero _
  · have hnear := Double.nearest_written hfinite hpos
    rw [← ofDouble_decimal layout hpos] at hnear
    exact Double.ofDecimal_of_nearest hfinite hpos hnear

end

end Numeral

end RegistryGateway.Json
