import RegistryGateway.Proofs.Duration
import RegistryGateway.Shape.Number

/-! Doubles beside integers.  Doubles are in the order of their values, so a bound that is an
integer holds of a double exactly when it holds of its value.  An integer is read as a double that
keeps the bounds zero and one exactly when the integer does. -/

namespace RegistryGateway

namespace Double

/-- One in multiples of the least positive number. -/
def unitsOfOne : Int := 2 ^ 1074

/-- Whether the value of a number is at least an integer; NaN has no value. -/
def atLeast (d : Double) (n : Int) : Bool :=
  !d.isNaN && if d.isInfinite then !d.negative else decide (n * unitsOfOne ≤ d.units)

/-- Whether the value of a number is at most an integer. -/
def atMost (d : Double) (n : Int) : Bool :=
  !d.isNaN && if d.isInfinite then d.negative else decide (d.units ≤ n * unitsOfOne)

/-! ### The order of numbers -/

/-- The magnitude bits with their sign, which order numbers. -/
def key (d : Double) : Int := if d.negative then -(d.magnitudeBits : Int) else d.magnitudeBits

theorem le_iff_key {a b : Double} (ha : a.isNaN = false) (hb : b.isNaN = false) :
    a.le b = true ↔ a.key ≤ b.key := by
  simp [le, key, ha, hb]

theorem magnitude_pos {d : Double} (h : 0 < d.magnitudeBits) : 0 < d.magnitude := by
  have hzero : zero.magnitude = 0 := magnitude_of_bits_zero (by decide)
  rw [← hzero]
  exact magnitude_lt h

/-- Numbers are in the order of their values. -/
theorem le_iff_units {a b : Double} (ha : a.isNaN = false) (hb : b.isNaN = false) :
    a.le b = true ↔ a.units ≤ b.units := by
  refine ⟨units_mono, fun h => ?_⟩
  rw [units_eq, units_eq] at h
  rw [le_iff_key ha hb, key, key]
  have hab := magnitude_lt (a := a) (b := b)
  have hba := magnitude_lt (a := b) (b := a)
  have hapos := magnitude_pos (d := a)
  have hbpos := magnitude_pos (d := b)
  cases hna : a.negative <;> cases hnb : b.negative <;>
    simp only [hna, hnb, Bool.false_eq_true, ↓reduceIte] at h ⊢ <;> omega

theorem isNaN_of_isFinite {d : Double} (h : d.isFinite = true) : d.isNaN = false := by
  simp only [isFinite, decide_eq_true_eq] at h
  simp only [isNaN, decide_eq_false_iff_not]
  omega

/-- A finite number lies strictly between the infinities. -/
theorem key_lt_infinity {d : Double} (h : d.isFinite = true) :
    -(infinityBits : Int) < d.key ∧ d.key < infinityBits := by
  simp only [isFinite, decide_eq_true_eq] at h
  simp only [key]
  split <;> omega

theorem key_of_isInfinite {d : Double} (h : d.isInfinite = true) :
    d.key = if d.negative then -(infinityBits : Int) else infinityBits := by
  simp only [isInfinite, beq_iff_eq] at h
  simp [key, h]

section

variable {limit : Double} {n : Int}

/-- A finite number with the value of an integer is a lower bound as that integer is. -/
theorem le_eq_atLeast (hlimit : limit.isFinite = true) (hn : limit.units = n * unitsOfOne)
    (d : Double) : limit.le d = d.atLeast n := by
  have hlimitNaN := isNaN_of_isFinite hlimit
  cases hd : d.isNaN with
  | true => simp [le, atLeast, hd]
  | false =>
    rw [Bool.eq_iff_iff]
    cases hi : d.isInfinite with
    | true =>
      have hkey := key_lt_infinity hlimit
      rw [le_iff_key hlimitNaN hd, key_of_isInfinite hi]
      cases hs : d.negative <;> simp [atLeast, hd, hi, hs] <;> omega
    | false =>
      rw [le_iff_units hlimitNaN hd, hn]
      simp [atLeast, hd, hi]

/-- And it is an upper bound as that integer is. -/
theorem le_eq_atMost (hlimit : limit.isFinite = true) (hn : limit.units = n * unitsOfOne)
    (d : Double) : d.le limit = d.atMost n := by
  have hlimitNaN := isNaN_of_isFinite hlimit
  cases hd : d.isNaN with
  | true => simp [le, atMost, hd]
  | false =>
    rw [Bool.eq_iff_iff]
    cases hi : d.isInfinite with
    | true =>
      have hkey := key_lt_infinity hlimit
      rw [le_iff_key hd hlimitNaN, key_of_isInfinite hi]
      cases hs : d.negative <;> simp [atMost, hd, hi, hs] <;> omega
    | false =>
      rw [le_iff_units hd hlimitNaN, hn]
      simp [atMost, hd, hi]

end

def one : Double := ⟨0x3FF0000000000000⟩

theorem ofInt?_zero : ofInt? 0 = some zero := by decide

theorem ofInt?_one : ofInt? 1 = some one := by decide

theorem zero_le_eq (d : Double) : zero.le d = d.atLeast 0 :=
  le_eq_atLeast (by decide) (by decide +kernel) d

theorem le_one_eq (d : Double) : d.le one = d.atMost 1 :=
  le_eq_atMost (by decide) (by decide +kernel) d

/-! ### Rounded integers -/

/-- A quotient is not rounded below its whole part. -/
theorem div_le_roundHalfEven (a b : Nat) : a / b ≤ roundHalfEven a b := by
  simp only [roundHalfEven]
  split
  · exact Nat.le_refl _
  split
  · exact Nat.le_succ _
  split
  · exact Nat.le_refl _
  · exact Nat.le_succ _

theorem binaryExponent_one {n : Nat} (h : n ≠ 0) : binaryExponent n 1 = n.log2 := by
  have hself := Nat.log2_self_le h
  have hone : Nat.log2 1 = 0 := by decide
  have hguess : ((n.log2 : Int) - (0 : Nat)) = n.log2 := by omega
  simp only [binaryExponent, hone, hguess, scale]
  split
  next hle =>
    have hlog : n.log2 = 0 := by omega
    rw [hlog]
    exact if_pos (Nat.one_le_iff_ne_zero.mpr h)
  next =>
    rw [neg_neg, Int.toNat_natCast, Nat.shiftLeft_eq, Nat.one_mul]
    exact if_pos hself

section

variable (sign : Bool) {m : Nat}

theorem toNat_signed (h : m ≤ infinityBits) :
    (UInt64.ofNat ((if sign then signBit else 0) + m)).toNat =
      (if sign then signBit else 0) + m := by
  have hlimit : signBit + infinityBits < 2 ^ 64 := by decide
  rw [UInt64.toNat_ofNat', Nat.mod_eq_of_lt]
  split <;> omega

theorem magnitudeBits_signed (h : m ≤ infinityBits) :
    magnitudeBits ⟨UInt64.ofNat ((if sign then signBit else 0) + m)⟩ = m := by
  have hlimit : infinityBits < signBit := by decide
  rw [magnitudeBits, toNat_signed sign h]
  cases sign
  · rw [if_neg (by decide), Nat.zero_add, Nat.mod_eq_of_lt (by omega)]
  · rw [if_pos rfl, Nat.add_mod_left, Nat.mod_eq_of_lt (by omega)]

theorem negative_signed (h : m ≤ infinityBits) :
    negative ⟨UInt64.ofNat ((if sign then signBit else 0) + m)⟩ = sign := by
  have hlimit : infinityBits < signBit := by decide
  rw [negative, toNat_signed sign h]
  cases sign <;> simp
  omega

/-- An integer is not rounded below the power of two under it, and keeps its sign. -/
theorem round_integer {n : Nat} (h : n ≠ 0) :
    min ((n.log2 + 1023) * exponentBit) infinityBits ≤ (round sign n 1).magnitudeBits ∧
      (round sign n 1).negative = sign := by
  have hself := Nat.log2_self_le h
  have hq : max (binaryExponent n 1 - 52) (-1074) = (n.log2 : Int) - 52 := by
    rw [binaryExponent_one h]
    omega
  simp only [round, h, ↓reduceIte, hq]
  generalize hratio : scale n 1 (-((n.log2 : Int) - 52)) = ratio
  -- The significand keeps its leading bit, whether it is shifted up or rounded down.
  have hfloor : exponentBit ≤ roundHalfEven ratio.1 ratio.2 := by
    refine Nat.le_trans ?_ (div_le_roundHalfEven _ _)
    subst hratio
    simp only [scale]
    split
    next hle =>
      have hpow : exponentBit = 2 ^ n.log2 * 2 ^ (-((n.log2 : Int) - 52)).toNat := by
        rw [← pow_add, show n.log2 + (-((n.log2 : Int) - 52)).toNat = 52 by omega]
        decide
      rw [Nat.div_one, Nat.shiftLeft_eq, hpow]
      exact Nat.mul_le_mul_right _ hself
    next hlt =>
      have hpow : 2 ^ n.log2 = exponentBit * 2 ^ (-(-((n.log2 : Int) - 52))).toNat := by
        rw [show exponentBit = 2 ^ 52 by decide, ← pow_add]
        congr 1
        omega
      rw [Nat.shiftLeft_eq, Nat.one_mul, Nat.le_div_iff_mul_le (Nat.two_pow_pos _), ← hpow]
      exact hself
  have hfield : ((n.log2 : Int) - 52 + 1074).toNat = n.log2 + 1022 := by omega
  have hsum : (n.log2 + 1023) * exponentBit ≤
      (n.log2 + 1022) * exponentBit + roundHalfEven ratio.1 ratio.2 := by
    calc
      (n.log2 + 1023) * exponentBit = (n.log2 + 1022) * exponentBit + exponentBit := by ring
      _ ≤ _ := Nat.add_le_add_left hfloor _
  rw [hfield, magnitudeBits_signed sign (Nat.min_le_right _ _),
    negative_signed sign (Nat.min_le_right _ _)]
  exact ⟨min_le_min_right _ hsum, rfl⟩

end

/-- An integer is read as a number between zero and one exactly when it is zero or one. -/
theorem ofInt?_unit_iff (i : Int) :
    (∃ d, ofInt? i = some d ∧ d.atMost 1 = true ∧ d.atLeast 0 = true) ↔ 0 ≤ i ∧ i ≤ 1 := by
  simp only [← zero_le_eq, ← le_one_eq]
  constructor
  · rintro ⟨d, hd, hone, hzero⟩
    have hnan := (isNaN_of_le hone).1
    rw [le_iff_key hnan (by decide), show one.key = 1023 * 2 ^ 52 by decide] at hone
    rw [le_iff_key (by decide) hnan, show zero.key = 0 by decide] at hzero
    -- Other integers are rounded to a magnitude of at least one; those above one, of at least two.
    by_contra hout
    have hne : i.natAbs ≠ 0 := by omega
    obtain ⟨hmagnitude, hsign⟩ := round_integer (decide (i < 0)) hne
    have hround : round (decide (i < 0)) i.natAbs 1 = d := by
      simp only [ofInt?] at hd
      split at hd
      · split at hd
        · exact Option.some.inj hd
        · cases hd
      · cases hd
    rw [hround] at hmagnitude hsign
    rw [show exponentBit = 2 ^ 52 by decide, show infinityBits = 2047 * 2 ^ 52 by decide]
      at hmagnitude
    rcases Int.lt_or_le i 0 with hneg | hpos
    · rw [key, if_pos (by simp [hsign, hneg])] at hzero
      omega
    · have hlog : 1 ≤ i.natAbs.log2 := (Nat.le_log2 hne).mpr (by omega)
      rw [key, if_neg (by simp [hsign, hpos])] at hone
      omega
  · rintro ⟨hlow, hhigh⟩
    obtain rfl | rfl : i = 0 ∨ i = 1 := by omega
    · exact ⟨_, ofInt?_zero, by decide, by decide⟩
    · exact ⟨_, ofInt?_one, by decide, by decide⟩

end Double

end RegistryGateway
