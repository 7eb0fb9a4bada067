import RegistryGateway.Executor
import Mathlib.Tactic.Ring

/-! Durations of calls.  Doubles in order have values in order, so the difference of two readings of
a clock that does not go back is not negative, and neither is the number of milliseconds in it. -/

namespace RegistryGateway

namespace Double

/-- The magnitude of a finite number as a multiple of the least positive number. -/
def magnitude (d : Double) : Nat := d.significand * 2 ^ (d.exponent + 1074).toNat

/-- The value of a finite number as a multiple of the least positive number. -/
def units (d : Double) : Int := d.signedSignificand * 2 ^ (d.exponent + 1074).toNat

theorem exponent_ge (d : Double) : -1074 ≤ d.exponent := by
  simp only [exponent]
  split
  · omega
  next h =>
    have hfield := Nat.pos_of_ne_zero h
    omega

/-- Below the exponent field 1 a magnitude is its fraction; from there on each step of the field
doubles it. -/
theorem magnitude_eq (d : Double) :
    d.magnitude =
      if d.magnitudeBits / exponentBit = 0 then d.magnitudeBits % exponentBit
      else (d.magnitudeBits % exponentBit + exponentBit) *
        2 ^ (d.magnitudeBits / exponentBit - 1) := by
  simp only [magnitude, significand, exponent]
  split
  · simp
  next h =>
    have hfield := Nat.pos_of_ne_zero h
    congr 2
    omega

theorem magnitude_lt {a b : Double} (h : a.magnitudeBits < b.magnitudeBits) :
    a.magnitude < b.magnitude := by
  rw [magnitude_eq, magnitude_eq]
  have hmod := Nat.mod_lt a.magnitudeBits (show 0 < exponentBit by decide)
  have ha := Nat.div_add_mod a.magnitudeBits exponentBit
  have hb := Nat.div_add_mod b.magnitudeBits exponentBit
  have hfield : a.magnitudeBits / exponentBit ≤ b.magnitudeBits / exponentBit :=
    Nat.div_le_div_right h.le
  generalize a.magnitudeBits % exponentBit = x at *
  generalize b.magnitudeBits % exponentBit = y at *
  generalize a.magnitudeBits / exponentBit = i at *
  generalize b.magnitudeBits / exponentBit = j at *
  rcases Nat.lt_or_ge i j with hlt | hge
  · -- A higher field starts where the one below it ends.
    have hstart : exponentBit * 2 ^ (j - 1) ≤ (y + exponentBit) * 2 ^ (j - 1) :=
      Nat.mul_le_mul_right _ (Nat.le_add_left _ _)
    rw [if_neg (show j ≠ 0 by omega)]
    refine Nat.lt_of_lt_of_le ?_ hstart
    split
    · have hone : 1 ≤ 2 ^ (j - 1) := Nat.one_le_two_pow
      calc
        x < exponentBit * 1 := by omega
        _ ≤ exponentBit * 2 ^ (j - 1) := Nat.mul_le_mul_left _ hone
    · have hpow : 2 ^ i ≤ 2 ^ (j - 1) := Nat.pow_le_pow_right (by decide) (by omega)
      calc
        (x + exponentBit) * 2 ^ (i - 1) < (2 * exponentBit) * 2 ^ (i - 1) :=
          Nat.mul_lt_mul_of_pos_right (by omega) (Nat.two_pow_pos _)
        _ = exponentBit * 2 ^ (i - 1 + 1) := by ring
        _ = exponentBit * 2 ^ i := by rw [Nat.sub_add_cancel (by omega)]
        _ ≤ exponentBit * 2 ^ (j - 1) := Nat.mul_le_mul_left _ hpow
  · obtain rfl : i = j := Nat.le_antisymm hfield hge
    have hrest : x < y := by omega
    split
    · exact hrest
    · exact Nat.mul_lt_mul_of_pos_right (by omega) (Nat.two_pow_pos _)

theorem magnitude_mono {a b : Double} (h : a.magnitudeBits ≤ b.magnitudeBits) :
    a.magnitude ≤ b.magnitude := by
  rcases Nat.lt_or_eq_of_le h with hlt | heq
  · exact (magnitude_lt hlt).le
  · rw [magnitude_eq, magnitude_eq, heq]

theorem units_eq (d : Double) :
    d.units = if d.negative then -(d.magnitude : Int) else d.magnitude := by
  simp only [units, signedSignificand, magnitude]
  split <;> push_cast <;> ring

theorem magnitude_of_bits_zero {d : Double} (h : d.magnitudeBits = 0) : d.magnitude = 0 := by
  simp [magnitude_eq, h]

/-- Numbers in order have their values in order. -/
theorem units_mono {a b : Double} (h : a.le b = true) : a.units ≤ b.units := by
  have hkey : (if a.negative then -(a.magnitudeBits : Int) else a.magnitudeBits) ≤
      if b.negative then -(b.magnitudeBits : Int) else b.magnitudeBits := by
    simp only [le] at h
    split at h
    · cases h
    · simpa using h
  rw [units_eq, units_eq]
  cases ha : a.negative <;> cases hb : b.negative <;>
    simp only [ha, hb, Bool.false_eq_true, ↓reduceIte] at hkey ⊢
  · have := magnitude_mono (a := a) (b := b) (by omega)
    omega
  · -- Only the two zeros stand this way round.
    rw [magnitude_of_bits_zero (d := a) (by omega), magnitude_of_bits_zero (d := b) (by omega)]
    simp
  · omega
  · have := magnitude_mono (a := b) (b := a) (by omega)
    omega

/-- The value of a number in a unit that is no larger than its own. -/
theorem aligned_mul (d : Double) {q : Int} (hlow : -1074 ≤ q) (hq : q ≤ d.exponent) :
    d.signedSignificand * 2 ^ (d.exponent - q).toNat * 2 ^ (q + 1074).toNat = d.units := by
  rw [units, mul_assoc, ← pow_add]
  congr 2
  omega

/-- What is rounded without a sign has none. -/
theorem negative_round (numerator denominator : Nat) :
    (round false numerator denominator).negative = false := by
  have hbits : ∀ n : Nat, n ≤ infinityBits → negative ⟨UInt64.ofNat n⟩ = false := by
    intro n hn
    have hlt : n < signBit := Nat.lt_of_le_of_lt hn (by decide)
    have hsize : signBit < 2 ^ 64 := by decide
    simp only [negative, UInt64.toNat_ofNat', decide_eq_false_iff_not]
    rw [Nat.mod_eq_of_lt (by omega)]
    omega
  simp only [round]
  split
  · exact hbits 0 (Nat.zero_le _)
  · simp only [Bool.false_eq_true, ↓reduceIte, Nat.zero_add]
    exact hbits _ (Nat.min_le_right _ _)

/-- The product with a factor is finite only if the number is. -/
theorem isFinite_of_scaleBy {d : Double} {factor : Nat}
    (h : (d.scaleBy factor).isFinite = true) : d.isFinite = true := by
  by_cases hd : d.isFinite = true
  · exact hd
  · simp [scaleBy, hd] at h

theorem negative_scaleBy {d : Double} {factor : Nat} (hf : d.isFinite = true)
    (hd : d.negative = false) : (d.scaleBy factor).negative = false := by
  simp only [scaleBy, hf, ↓reduceIte, hd]
  exact negative_round _ _

theorem isNaN_of_le {a b : Double} (h : a.le b = true) : a.isNaN = false ∧ b.isNaN = false := by
  cases ha : a.isNaN <;> cases hb : b.isNaN <;> simp [le, ha, hb] at h ⊢

theorem not_isFinite_nan : nan.isFinite = false := by decide

theorem not_isFinite_infinity (sign : Bool) : (infinity sign).isFinite = false := by
  cases sign <;> decide

theorem isInfinite_not_isFinite {d : Double} (h : d.isInfinite = true) : d.isFinite = false := by
  simp only [isInfinite, beq_iff_eq] at h
  simp [isFinite, h]

/-- The difference of numbers in order has no sign where it is finite. -/
theorem negative_sub {a b : Double} (h : a.le b = true) (hf : (b.sub a).isFinite = true) :
    (b.sub a).negative = false := by
  obtain ⟨ha, hb⟩ := isNaN_of_le h
  simp only [sub, ha, hb, Bool.or_self, Bool.false_eq_true, ↓reduceIte] at hf ⊢
  by_cases hbi : b.isInfinite = true
  · simp only [hbi, ↓reduceIte] at hf
    split at hf
    · simp [not_isFinite_nan] at hf
    · simp [isInfinite_not_isFinite hbi] at hf
  by_cases hai : a.isInfinite = true
  · simp [hbi, hai, not_isFinite_infinity] at hf
  simp only [hbi, hai, Bool.false_eq_true, ↓reduceIte]
  have hlow : -1074 ≤ min b.exponent a.exponent := by
    have := exponent_ge a
    have := exponent_ge b
    omega
  have hmono := units_mono h
  rw [← aligned_mul a hlow (min_le_right _ _), ← aligned_mul b hlow (min_le_left _ _)] at hmono
  have hdiff := Int.le_of_mul_le_mul_right hmono (Int.pow_pos (by decide))
  simp only [ofDyadic, Int.shiftLeft_eq]
  rw [decide_eq_false (by omega)]
  exact negative_round _ _

/-- A finite number without a sign has a nearest integer that is not negative. -/
theorem toNearestInt_nonneg {d : Double} (hf : d.isFinite = true) (hd : d.negative = false) :
    ∃ n : Int, 0 ≤ n ∧ d.toNearestInt = .ok n := by
  have hnan : d.isNaN = false := by
    simp only [isFinite, decide_eq_true_eq] at hf
    simp only [isNaN, decide_eq_false_iff_not]
    omega
  have hinf : d.isInfinite = false := by
    by_contra h
    simp [isInfinite_not_isFinite (by simpa using h)] at hf
  simp only [toNearestInt, hnan, hinf, hd, Bool.false_eq_true, ↓reduceIte]
  exact ⟨_, Int.natCast_nonneg _, rfl⟩

end Double

namespace Sources

/-- The next two readings of the clock are in order, and the milliseconds between them are a finite
number. -/
def Steady (s : Sources) : Prop :=
  s.tick.1.le s.tick.2.tick.1 = true ∧
    ((s.tick.2.tick.1.sub s.tick.1).scaleBy 1000).isFinite = true

instance (s : Sources) : Decidable s.Steady := inferInstanceAs (Decidable (_ ∧ _))

end Sources

namespace Executor

/-- Readings in order are a number of milliseconds apart that is not negative. -/
theorem milliseconds_nonneg {start finish : Double} (hle : start.le finish = true)
    (hf : ((finish.sub start).scaleBy 1000).isFinite = true) :
    ∃ ms : Int, 0 ≤ ms ∧ milliseconds start finish = .ok ms := by
  have hsub := Double.isFinite_of_scaleBy hf
  have hsign : ((finish.sub start).scaleBy 1000).negative = false :=
    Double.negative_scaleBy hsub (Double.negative_sub hle hsub)
  obtain ⟨n, hn, hround⟩ := Double.toNearestInt_nonneg hf hsign
  exact ⟨n, hn, by simp [milliseconds, hround]⟩

end Executor

end RegistryGateway
