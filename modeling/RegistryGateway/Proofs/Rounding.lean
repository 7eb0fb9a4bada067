import RegistryGateway.Proofs.Order
import RegistryGateway.Double.Shortest
import Mathlib.Algebra.Order.Field.Power
import Mathlib.Data.Rat.Cast.Order
import Mathlib.Tactic.FieldSimp
import Mathlib.Tactic.Linarith
import Mathlib.Tactic.Positivity

/-! Rounding to the nearest number.  The rationals around a positive number that are nearer to it
than to its neighbours, and those half the way when its significand is even, are rounded to it. -/

namespace RegistryGateway

/-- The quotient of a pair. -/
def ratio (s : Nat × Nat) : ℚ := s.1 / s.2

theorem ratio_one (n : Nat) : ratio (n, 1) = n := by simp [ratio]

/-! ## Powers -/

theorem zpow_of_nonneg (b : ℚ) {q : ℤ} (hq : 0 ≤ q) : b ^ q = b ^ q.toNat := by
  rw [← zpow_natCast, Int.toNat_of_nonneg hq]

theorem zpow_of_not_nonneg (b : ℚ) {q : ℤ} (hq : ¬0 ≤ q) : b ^ q = (b ^ (-q).toNat)⁻¹ := by
  rw [← zpow_natCast, Int.toNat_of_nonneg (by omega), zpow_neg, inv_inv]

theorem zpow_add_nat {b : ℚ} (hb : b ≠ 0) (q : ℤ) (k : ℕ) : b ^ (q + k) = b ^ k * b ^ q := by
  rw [zpow_add₀ hb, zpow_natCast, mul_comm]

/-! ## Quotients -/

/-- A quotient is rounded to the integer that is at most a half away, and to an odd one only if it
is less than a half away. -/
theorem roundHalfEven_eq {a b r : Nat} (hb : 0 < b) (hlow : 2 * (r * b) ≤ 2 * a + b)
    (hhigh : 2 * a ≤ 2 * (r * b) + b)
    (hodd : r % 2 = 1 → 2 * (r * b) < 2 * a + b ∧ 2 * a < 2 * (r * b) + b) :
    roundHalfEven a b = r := by
  have hdiv := Nat.div_add_mod a b
  have hmod := Nat.mod_lt a hb
  simp only [roundHalfEven]
  generalize a / b = quotient at *
  generalize a % b = remainder at *
  have hcases : r = quotient ∨ r = quotient + 1 := by
    by_contra hout
    rcases Nat.lt_or_ge r quotient with hlt | hge
    · have hmul : (r + 1) * b ≤ quotient * b := Nat.mul_le_mul_right b hlt
      rw [Nat.add_mul, Nat.mul_comm quotient b] at hmul
      omega
    · have hmul : (quotient + 2) * b ≤ r * b := Nat.mul_le_mul_right b (by omega)
      rw [Nat.add_mul, Nat.mul_comm quotient b] at hmul
      omega
  rcases hcases with rfl | rfl
  · rw [Nat.mul_comm r b] at hlow hhigh hodd
    split
    · rfl
    split
    · omega
    split
    · rfl
    · omega
  · rw [Nat.add_mul, Nat.mul_comm quotient b] at hlow hhigh hodd
    split
    · omega
    split
    · rfl
    split
    · omega
    · rfl

/-- The same for the value of a quotient. -/
theorem roundHalfEven_of_ratio {s : Nat × Nat} {r : Nat} (hs : 0 < s.2)
    (hlow : (r : ℚ) - 1 / 2 ≤ ratio s) (hhigh : ratio s ≤ r + 1 / 2)
    (hodd : r % 2 = 1 → (r : ℚ) - 1 / 2 < ratio s ∧ ratio s < r + 1 / 2) :
    roundHalfEven s.1 s.2 = r := by
  have hpos : (0 : ℚ) < s.2 := by exact_mod_cast hs
  have hvalue : ratio s * s.2 = s.1 := div_mul_cancel₀ _ hpos.ne'
  apply roundHalfEven_eq hs
  · have h := mul_le_mul_of_nonneg_right hlow hpos.le
    have h' : 2 * ((r : ℚ) * s.2) ≤ 2 * s.1 + s.2 := by linarith
    exact_mod_cast h'
  · have h := mul_le_mul_of_nonneg_right hhigh hpos.le
    have h' : 2 * (s.1 : ℚ) ≤ 2 * (r * s.2) + s.2 := by linarith
    exact_mod_cast h'
  · intro hr
    have hl := mul_lt_mul_of_pos_right (hodd hr).1 hpos
    have hh := mul_lt_mul_of_pos_right (hodd hr).2 hpos
    have hl' : 2 * ((r : ℚ) * s.2) < 2 * s.1 + s.2 := by linarith
    have hh' : 2 * (s.1 : ℚ) < 2 * (r * s.2) + s.2 := by linarith
    exact ⟨by exact_mod_cast hl', by exact_mod_cast hh'⟩

namespace Double

theorem ratio_scale (n : Nat) {d : Nat} (hd : 0 < d) (q : ℤ) :
    ratio (scale n d q) = ratio (n, d) * 2 ^ q ∧ 0 < (scale n d q).2 := by
  unfold scale
  split
  · next hq =>
    refine ⟨?_, hd⟩
    rw [ratio, ratio, Nat.shiftLeft_eq, zpow_of_nonneg 2 hq]
    push_cast
    ring
  · next hq =>
    refine ⟨?_, ?_⟩
    · rw [ratio, ratio, Nat.shiftLeft_eq, zpow_of_not_nonneg 2 hq]
      push_cast
      rw [div_mul_eq_div_div, div_eq_mul_inv (_ / _)]
    · rw [Nat.shiftLeft_eq]
      positivity

theorem ratio_inUnits (n : Nat) {d : Nat} (hd : 0 < d) (p : ℤ) :
    ratio (inUnits n d p) = ratio (n, d) / 10 ^ p ∧ 0 < (inUnits n d p).2 := by
  unfold inUnits
  split
  · next hp =>
    refine ⟨?_, ?_⟩
    · rw [ratio, ratio, zpow_of_nonneg 10 hp, Nat.pow_eq]
      push_cast
      rw [div_mul_eq_div_div]
    · rw [Nat.pow_eq]
      positivity
  · next hp =>
    refine ⟨?_, hd⟩
    rw [ratio, ratio, zpow_of_not_nonneg 10 hp, Nat.pow_eq]
    push_cast
    rw [div_inv_eq_mul]
    ring

theorem le_ratio_iff {s : Nat × Nat} (hs : 0 < s.2) : s.2 ≤ s.1 ↔ 1 ≤ ratio s := by
  have hpos : (0 : ℚ) < s.2 := by exact_mod_cast hs
  rw [ratio, le_div_iff₀ hpos, one_mul, Nat.cast_le]

/-- A positive quotient lies between the power of two of its exponent and the next. -/
theorem binaryExponent_spec {n d : Nat} (hn : 0 < n) (hd : 0 < d) :
    (2 : ℚ) ^ binaryExponent n d ≤ ratio (n, d) ∧ ratio (n, d) < 2 ^ (binaryExponent n d + 1) := by
  have hlog {k : Nat} (hk : 0 < k) :
      (2 : ℚ) ^ (k.log2 : ℤ) ≤ k ∧ (k : ℚ) < 2 ^ ((k.log2 : ℤ) + 1) := by
    have hlow := Nat.log2_self_le hk.ne'
    have hhigh := Nat.lt_log2_self (n := k)
    refine ⟨by exact_mod_cast hlow, by exact_mod_cast hhigh⟩
  have hn' : (0 : ℚ) < n := by exact_mod_cast hn
  have hd' : (0 : ℚ) < d := by exact_mod_cast hd
  obtain ⟨hnlow, hnhigh⟩ := hlog hn
  obtain ⟨hdlow, hdhigh⟩ := hlog hd
  have htwo : (2 : ℚ) ≠ 0 := by norm_num
  have hguess : (2 : ℚ) ^ ((n.log2 : ℤ) - d.log2 - 1) < ratio (n, d) ∧
      ratio (n, d) < 2 ^ ((n.log2 : ℤ) - d.log2 + 1) := by
    rw [ratio, lt_div_iff₀ hd', div_lt_iff₀ hd']
    constructor
    · calc
        (2 : ℚ) ^ ((n.log2 : ℤ) - d.log2 - 1) * d
            < 2 ^ ((n.log2 : ℤ) - d.log2 - 1) * 2 ^ ((d.log2 : ℤ) + 1) :=
          mul_lt_mul_of_pos_left hdhigh (zpow_pos two_pos _)
        _ = 2 ^ (n.log2 : ℤ) := by rw [← zpow_add₀ htwo]; congr 1; omega
        _ ≤ n := hnlow
    · calc
        (n : ℚ) < 2 ^ ((n.log2 : ℤ) + 1) := hnhigh
        _ = 2 ^ ((n.log2 : ℤ) - d.log2 + 1) * 2 ^ (d.log2 : ℤ) := by
          rw [← zpow_add₀ htwo]; congr 1; omega
        _ ≤ 2 ^ ((n.log2 : ℤ) - d.log2 + 1) * d :=
          mul_le_mul_of_nonneg_left hdlow (zpow_pos two_pos _).le
  obtain ⟨hscale, hpos⟩ := ratio_scale n hd (-((n.log2 : ℤ) - d.log2))
  have hle := le_ratio_iff hpos
  have hpow : (0 : ℚ) < 2 ^ ((n.log2 : ℤ) - d.log2) := zpow_pos two_pos _
  rw [hscale, zpow_neg, ← div_eq_mul_inv, le_div_iff₀ hpow, one_mul] at hle
  simp only [binaryExponent]
  split
  · next h => exact ⟨hle.mp h, hguess.2⟩
  · next h =>
    rw [sub_add_cancel]
    exact ⟨hguess.1.le, not_le.mp fun h' => h (hle.mpr h')⟩

/-! ## The numbers around a number -/

/-- The magnitude of a finite number. -/
def value (d : Double) : ℚ := d.significand * 2 ^ d.exponent

/-- The exponent and fraction bits count the numbers below. -/
theorem magnitudeBits_eq (d : Double) :
    d.magnitudeBits = (d.exponent + 1074).toNat * exponentBit + d.significand := by
  have hdiv := Nat.div_add_mod d.magnitudeBits exponentBit
  simp only [exponent, significand]
  split
  · next h =>
    rw [h] at hdiv
    simpa using hdiv.symm
  · next h =>
    have hfield : ((d.magnitudeBits / exponentBit : ℕ) - 1075 + 1074 : ℤ).toNat =
        d.magnitudeBits / exponentBit - 1 := by omega
    obtain ⟨field, hsucc⟩ := Nat.exists_eq_succ_of_ne_zero h
    rw [hfield]
    rw [hsucc] at hdiv ⊢
    rw [Nat.succ_sub_one]
    rw [Nat.mul_succ, Nat.mul_comm] at hdiv
    omega

theorem significand_lt (d : Double) : d.significand < 2 * exponentBit := by
  have hmod := Nat.mod_lt d.magnitudeBits (show 0 < exponentBit by decide)
  simp only [significand]
  split <;> omega

theorem significand_add_one_le (d : Double) : (d.significand : ℚ) + 1 ≤ 2 ^ 53 := by
  have hlt := d.significand_lt
  rw [show 2 * exponentBit = 2 ^ 53 by decide] at hlt
  exact_mod_cast hlt

theorem le_significand {d : Double} (h : -1074 < d.exponent) : exponentBit ≤ d.significand := by
  simp only [significand, exponent] at h ⊢
  split at h
  · omega
  · next hfield =>
    rw [if_neg hfield]
    exact Nat.le_add_left _ _

theorem exponent_le {d : Double} (h : d.isFinite = true) : d.exponent ≤ 971 := by
  have hbits : d.magnitudeBits < 2047 * exponentBit := by
    simp only [isFinite, decide_eq_true_eq] at h
    exact h
  have hdiv := Nat.div_lt_of_lt_mul (Nat.mul_comm 2047 exponentBit ▸ hbits)
  simp only [exponent]
  split <;> omega

/-- How far below a number the middle of it and the number below it lies: the numbers below a power
of two are twice as dense. -/
def below (d : Double) : ℚ :=
  if d.significand = exponentBit ∧ -1074 < d.exponent then 2 ^ d.exponent / 4
  else 2 ^ d.exponent / 2

/-- A rational that a number is the nearest to; of the middles between numbers, each is taken to be
nearest to the even one. -/
structure Nearest (d : Double) (x : ℚ) : Prop where
  low : d.value - d.below ≤ x
  high : x ≤ d.value + 2 ^ d.exponent / 2
  odd : d.significand % 2 = 1 → d.value - d.below < x ∧ x < d.value + 2 ^ d.exponent / 2

theorem below_pos (d : Double) : 0 < d.below := by
  unfold below
  split <;> positivity

theorem below_le (d : Double) : d.below ≤ 2 ^ d.exponent / 2 := by
  have hpow : (0 : ℚ) < 2 ^ d.exponent := zpow_pos two_pos _
  unfold below
  split <;> linarith

theorem nearest_value {d : Double} (x : ℚ) (hlow : d.value - d.below < x)
    (hhigh : x < d.value + 2 ^ d.exponent / 2) : d.Nearest x :=
  ⟨hlow.le, hhigh.le, fun _ => ⟨hlow, hhigh⟩⟩

section

variable {d : Double} {x : ℚ} (h : d.Nearest x)

include h

/-- A half of the last place is left. -/
theorem Nearest.half_le (hd : 0 < d.significand) : 2 ^ d.exponent / 2 ≤ x := by
  have hpow : (0 : ℚ) < 2 ^ d.exponent := zpow_pos two_pos _
  have hone : (1 : ℚ) ≤ d.significand := by exact_mod_cast hd
  have hvalue : 2 ^ d.exponent ≤ d.value := le_mul_of_one_le_left hpow.le hone
  have hbelow := d.below_le
  have hlow := h.low
  linarith

theorem Nearest.lt : x < 2 ^ (d.exponent + 53) := by
  have hpow : (0 : ℚ) < 2 ^ d.exponent := zpow_pos two_pos _
  have hvalue : d.value + 2 ^ d.exponent ≤ 2 ^ 53 * 2 ^ d.exponent := by
    rw [value]
    calc
      (d.significand : ℚ) * 2 ^ d.exponent + 2 ^ d.exponent
          = (d.significand + 1) * 2 ^ d.exponent := by ring
      _ ≤ 2 ^ 53 * 2 ^ d.exponent := mul_le_mul_of_nonneg_right d.significand_add_one_le hpow.le
  have hsplit : (2 : ℚ) ^ (d.exponent + 53) = 2 ^ 53 * 2 ^ d.exponent :=
    zpow_add_nat two_ne_zero d.exponent 53
  have hhigh := h.high
  rw [hsplit]
  linarith

/-- Below the power of two at the significand of a normal number lies what is less than a quarter of
the last place away, under the number with the least significand alone. -/
theorem Nearest.low_cases (hexp : -1074 < d.exponent) (hlt : x < 2 ^ (d.exponent + 52)) :
    d.significand = exponentBit ∧ 2 ^ (d.exponent + 52) - 2 ^ d.exponent / 4 ≤ x := by
  have hpow : (0 : ℚ) < 2 ^ d.exponent := zpow_pos two_pos _
  have hsplit : (2 : ℚ) ^ (d.exponent + 52) = 2 ^ 52 * 2 ^ d.exponent :=
    zpow_add_nat two_ne_zero d.exponent 52
  have hbit : exponentBit = 2 ^ 52 := by decide
  have hlow := h.low
  by_cases hm : d.significand = exponentBit
  · refine ⟨hm, ?_⟩
    rw [value, below, if_pos ⟨hm, hexp⟩, hm, hbit] at hlow
    push_cast at hlow
    rw [hsplit]
    exact hlow
  · exfalso
    have hmore : (2 : ℚ) ^ 52 + 1 ≤ d.significand := by
      have hle := le_significand hexp
      rw [hbit] at hle hm
      exact_mod_cast (show 2 ^ 52 + 1 ≤ d.significand by omega)
    have hvalue : (2 ^ 52 + 1) * 2 ^ d.exponent ≤ d.value :=
      mul_le_mul_of_nonneg_right hmore hpow.le
    have hbelow := d.below_le
    rw [hsplit] at hlt
    linarith

end

/-- A number is its sign and its magnitude. -/
theorem eq_signed (d : Double) :
    d = ⟨UInt64.ofNat ((if d.negative then signBit else 0) + d.magnitudeBits)⟩ := by
  have hlt : d.bits.toNat < 2 * signBit := d.bits.toNat_lt
  have hbits : (if d.negative then signBit else 0) + d.magnitudeBits = d.bits.toNat := by
    simp only [negative, magnitudeBits, decide_eq_true_eq]
    split
    · next hle =>
      rw [Nat.mod_eq_sub_mod hle, Nat.mod_eq_of_lt (by omega)]
      omega
    · next hgt => rw [Nat.mod_eq_of_lt (by omega), Nat.zero_add]
  rw [hbits, UInt64.ofNat_toNat]

/-- Rounding puts together the exponent that the quotient has and its rounded significand. -/
theorem round_eq_of_parts {d : Double} (hfinite : d.isFinite = true) {n den r : Nat} (hn : 0 < n)
    {q : ℤ} (hq : max (binaryExponent n den - 52) (-1074) = q)
    (hr : roundHalfEven (scale n den (-q)).1 (scale n den (-q)).2 = r)
    (hbits : (q + 1074).toNat * exponentBit + r = d.magnitudeBits) :
    round d.negative n den = d := by
  have hmagnitude : d.magnitudeBits ≤ infinityBits := by
    simp only [isFinite, decide_eq_true_eq] at hfinite
    exact hfinite.le
  simp only [round, hn.ne', ↓reduceIte, hq, hr, hbits, min_eq_left hmagnitude]
  exact d.eq_signed.symm

section

variable {d : Double} (hfinite : d.isFinite = true) {n den : Nat} (hn : 0 < n) (hden : 0 < den)
  (h : d.Nearest (ratio (n, den)))

include hfinite hn hden h

/-- A quotient with the exponent of the number has its significand, to the nearest integer. -/
theorem round_of_exponent (hq : max (binaryExponent n den - 52) (-1074) = d.exponent) :
    round d.negative n den = d := by
  have hpow : (0 : ℚ) < 2 ^ d.exponent := zpow_pos two_pos _
  obtain ⟨hratio, hpos⟩ := ratio_scale n hden (-d.exponent)
  rw [zpow_neg, ← div_eq_mul_inv] at hratio
  have hbelow := d.below_le
  have hlow := h.low
  have hhigh := h.high
  have hodd := h.odd
  rw [value] at hlow hhigh hodd
  refine round_eq_of_parts hfinite hn hq (roundHalfEven_of_ratio hpos ?_ ?_ fun hr => ?_)
    d.magnitudeBits_eq.symm
  · rw [hratio, le_div_iff₀ hpow]
    linarith
  · rw [hratio, div_le_iff₀ hpow]
    linarith
  · obtain ⟨hlow, hhigh⟩ := hodd hr
    rw [hratio, lt_div_iff₀ hpow, div_lt_iff₀ hpow]
    constructor <;> linarith

/-- A quotient just below a power of two, with the exponent below that of the number, is rounded up
to the power. -/
theorem round_of_exponent_below (hexp : -1074 < d.exponent)
    (hq : max (binaryExponent n den - 52) (-1074) = d.exponent - 1)
    (hlt : ratio (n, den) < 2 ^ (d.exponent + 52)) : round d.negative n den = d := by
  obtain ⟨hm, hclose⟩ := h.low_cases hexp hlt
  obtain ⟨hratio, hpos⟩ := ratio_scale n hden (-(d.exponent - 1))
  have hpow : (0 : ℚ) < 2 ^ (d.exponent - 1) := zpow_pos two_pos _
  have hsplit : (2 : ℚ) ^ (d.exponent + 52) = 2 ^ 52 * 2 ^ d.exponent :=
    zpow_add_nat two_ne_zero d.exponent 52
  have hprevious : (2 : ℚ) ^ d.exponent = 2 * 2 ^ (d.exponent - 1) := by
    rw [← zpow_one_add₀ two_ne_zero, add_sub_cancel]
  rw [zpow_neg, ← div_eq_mul_inv] at hratio
  have hr : roundHalfEven (scale n den (-(d.exponent - 1))).1
      (scale n den (-(d.exponent - 1))).2 = 2 ^ 53 := by
    refine roundHalfEven_of_ratio hpos ?_ ?_ fun hr => by omega
    · rw [hratio, le_div_iff₀ hpow]
      push_cast
      linarith
    · rw [hratio, div_le_iff₀ hpow]
      push_cast
      linarith
  refine round_eq_of_parts hfinite hn hq hr ?_
  obtain ⟨k, hk⟩ : ∃ k, (d.exponent + 1074).toNat = k + 1 :=
    ⟨(d.exponent + 1073).toNat, by omega⟩
  have hk' : (d.exponent - 1 + 1074).toNat = k := by omega
  rw [magnitudeBits_eq, hm, hk, hk', show (2 : ℕ) ^ 53 = 2 * exponentBit by decide]
  ring

end

/-- What a number is nearest to is rounded to it. -/
theorem round_of_nearest {d : Double} (hfinite : d.isFinite = true) (hd : 0 < d.significand)
    {n den : Nat} (hden : 0 < den) (h : d.Nearest (ratio (n, den))) :
    round d.negative n den = d := by
  have hn : 0 < n := by
    rcases Nat.eq_zero_or_pos n with rfl | hn
    · have hpow : (0 : ℚ) < 2 ^ d.exponent := zpow_pos two_pos _
      have hhalf := h.half_le hd
      rw [ratio, Nat.cast_zero, zero_div] at hhalf
      linarith
    · exact hn
  have hexp := d.exponent_ge
  obtain ⟨hlow, hhigh⟩ := binaryExponent_spec hn hden
  by_cases hcase : d.exponent = -1074 ∨ (2 : ℚ) ^ (d.exponent + 52) ≤ ratio (n, den)
  · refine round_of_exponent hfinite hn hden h ?_
    have htop : binaryExponent n den < d.exponent + 53 :=
      (zpow_lt_zpow_iff_right₀ one_lt_two).mp (hlow.trans_lt h.lt)
    obtain hleast | hle := hcase
    · omega
    · have hbottom : d.exponent + 52 < binaryExponent n den + 1 :=
        (zpow_lt_zpow_iff_right₀ one_lt_two).mp (hle.trans_lt hhigh)
      omega
  · obtain ⟨hne, hlt⟩ := not_or.mp hcase
    have hlt := not_le.mp hlt
    refine round_of_exponent_below hfinite hn hden h (by omega) ?_ hlt
    have htop : binaryExponent n den < d.exponent + 52 :=
      (zpow_lt_zpow_iff_right₀ one_lt_two).mp (hlow.trans_lt hlt)
    have hbottom : d.exponent + 51 < binaryExponent n den + 1 := by
      refine (zpow_lt_zpow_iff_right₀ one_lt_two).mp (lt_of_le_of_lt ?_ hhigh)
      have hclose := (h.low_cases (by omega) hlt).2
      have hpow : (0 : ℚ) < 2 ^ d.exponent := zpow_pos two_pos _
      have hsplit : (2 : ℚ) ^ (d.exponent + 52) = 2 ^ 52 * 2 ^ d.exponent :=
        zpow_add_nat two_ne_zero d.exponent 52
      have hhalf : (2 : ℚ) ^ (d.exponent + 51) = 2 ^ 51 * 2 ^ d.exponent :=
        zpow_add_nat two_ne_zero d.exponent 51
      linarith
    omega

end Double

end RegistryGateway
