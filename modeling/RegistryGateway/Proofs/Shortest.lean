import RegistryGateway.Proofs.Rounding

/-! The shortest decimal of a number.  It is one that the number is the nearest to, so it is read
back as the number. -/

namespace RegistryGateway.Double

/-- The value of digits before an exponent of ten. -/
def decimal (c : Nat) (p : ℤ) : ℚ := c * 10 ^ p

theorem decimal_ratio (c : Nat) (p : ℤ) :
    decimal c p =
      if 0 ≤ p then ratio (c * Nat.pow 10 p.toNat, 1) else ratio (c, Nat.pow 10 (-p).toNat) := by
  split
  · next hp =>
    rw [decimal, ratio_one, zpow_of_nonneg 10 hp, Nat.pow_eq]
    push_cast
    rfl
  · next hp =>
    rw [decimal, ratio, zpow_of_not_nonneg 10 hp, Nat.pow_eq]
    push_cast
    rw [div_eq_mul_inv]

/-! ## Reading decimals -/

theorem two_le_ten : (2 : ℚ) ^ (1077 : ℤ) ≤ 10 ^ (359 : ℤ) := by
  rw [show (1077 : ℤ) = 3 * 359 by norm_num, zpow_mul]
  exact zpow_le_zpow_left₀ (by norm_num) (by norm_num) (by norm_num)

section

variable {d : Double} (hfinite : d.isFinite = true)

include hfinite

/-- A decimal that a positive number is nearest to is neither so large nor so small that it is not
looked at. -/
theorem Nearest.exponent_bounds (hd : 0 < d.significand) {digits : Nat} {e : ℤ}
    (h : d.Nearest (decimal digits e)) : 0 < digits ∧ e ≤ 400 ∧ -400 ≤ e + digits.log2 + 1 := by
  have hten : (0 : ℚ) < 10 ^ e := zpow_pos (by norm_num) _
  have hlow : (2 : ℚ) ^ (-1077 : ℤ) < decimal digits e := by
    have hhalf := h.half_le hd
    have hexp := d.exponent_ge
    have hsmall : (2 : ℚ) ^ (-1077 : ℤ) < 2 ^ (d.exponent - 1) :=
      zpow_lt_zpow_right₀ one_lt_two (by omega)
    rw [zpow_sub_one₀ two_ne_zero, ← div_eq_mul_inv] at hsmall
    exact hsmall.trans_le hhalf
  have hhigh : decimal digits e < (2 : ℚ) ^ (1077 : ℤ) := by
    have hexp := exponent_le hfinite
    exact h.lt.trans_le (zpow_le_zpow_right₀ one_lt_two.le (by omega))
  have hdigits : 0 < digits := by
    rcases Nat.eq_zero_or_pos digits with rfl | hpos
    · have hzero : (0 : ℚ) < 2 ^ (-1077 : ℤ) := zpow_pos two_pos _
      rw [decimal, Nat.cast_zero, zero_mul] at hlow
      linarith
    · exact hpos
  refine ⟨hdigits, ?_, ?_⟩
  · have hone : (1 : ℚ) ≤ digits := by exact_mod_cast hdigits
    have hle : (10 : ℚ) ^ e ≤ decimal digits e := le_mul_of_one_le_left hten.le hone
    have hbound := (zpow_lt_zpow_iff_right₀ (by norm_num)).mp
      ((hle.trans_lt hhigh).trans_le two_le_ten)
    omega
  · have hlog : (digits : ℚ) ≤ 10 ^ ((digits.log2 : ℤ) + 1) := by
      have hlt : (digits : ℚ) < 2 ^ (digits.log2 + 1) := by
        exact_mod_cast Nat.lt_log2_self (n := digits)
      have hpow : (2 : ℚ) ^ (digits.log2 + 1) ≤ 10 ^ (digits.log2 + 1) :=
        pow_le_pow_left₀ (by norm_num) (by norm_num) _
      exact_mod_cast hlt.le.trans hpow
    have hle : decimal digits e ≤ 10 ^ ((digits.log2 : ℤ) + 1 + e) := by
      rw [zpow_add₀ (by norm_num)]
      exact mul_le_mul_of_nonneg_right hlog hten.le
    have hten' : (10 : ℚ) ^ (-359 : ℤ) ≤ 2 ^ (-1077 : ℤ) := by
      rw [zpow_neg, zpow_neg]
      exact inv_anti₀ (zpow_pos two_pos _) two_le_ten
    have hbound := (zpow_lt_zpow_iff_right₀ (by norm_num)).mp
      (hten'.trans_lt (hlow.trans_le hle))
    omega

theorem ofDecimal_of_nearest (hd : 0 < d.significand) {digits : Nat} {e : ℤ}
    (h : d.Nearest (decimal digits e)) : ofDecimal d.negative digits e = d := by
  obtain ⟨hdigits, hhigh, hlow⟩ := h.exponent_bounds hfinite hd
  rw [decimal_ratio] at h
  rw [ofDecimal, if_neg hdigits.ne', if_neg (by omega), if_neg (by omega)]
  split
  · next he =>
    rw [if_pos he] at h
    exact round_of_nearest hfinite hd one_pos h
  · next he =>
    rw [if_neg he] at h
    exact round_of_nearest hfinite hd (Nat.pow_pos (by decide)) h

end

theorem ofDecimal_zero {d : Double} (hd : d.significand = 0) (e : ℤ) :
    ofDecimal d.negative 0 e = d := by
  have hexp : ¬-1074 < d.exponent := by
    intro hlt
    have hle := le_significand hlt
    rw [hd] at hle
    exact absurd hle (by decide)
  have hleast : d.exponent = -1074 := by
    have hge := d.exponent_ge
    omega
  have hbits : d.magnitudeBits = 0 := by
    rw [magnitudeBits_eq, hd, hleast]
    decide
  have hself := d.eq_signed
  rw [hbits, Nat.add_zero] at hself
  rw [ofDecimal, if_pos rfl, round, if_pos rfl]
  exact hself.symm

/-! ## The grid of decimals with an exponent -/

/-- The number, and the unit of the grid, over a common denominator. -/
def gridUnits (d : Double) (p : ℤ) : Nat × Nat :=
  let s := scale (4 * d.significand) 1 (d.exponent - 2)
  inUnits s.1 s.2 p

/-- A quarter of the last place over the same denominator. -/
def gridStep (d : Double) (p : ℤ) : Nat :=
  let q := d.exponent - 2
  let step := if 0 ≤ q then 1 <<< q.toNat else 1
  if 0 ≤ p then step else step * Nat.pow 10 (-p).toNat

/-- Whether the number is nearest to a point of the grid. -/
def onGridInside (d : Double) (p : ℤ) (c : Nat) : Bool :=
  let value := (d.gridUnits p).1
  let point := c * (d.gridUnits p).2
  let above := 2 * d.gridStep p
  let below :=
    if d.significand = exponentBit ∧ -1074 < d.exponent then d.gridStep p else 2 * d.gridStep p
  if d.significand % 2 = 0 then value ≤ point + below ∧ point ≤ value + above
  else value < point + below ∧ point < value + above

theorem onGrid_eq (d : Double) (p : ℤ) :
    d.onGrid p =
      let value := (d.gridUnits p).1
      let unit := (d.gridUnits p).2
      let floor := value / unit
      let ceiling := if value % unit = 0 then floor else floor + 1
      match d.onGridInside p floor, d.onGridInside p ceiling with
      | true, true => some (roundHalfEven value unit)
      | true, false => some floor
      | false, true => some ceiling
      | false, false => none := rfl

theorem gridUnits_ratio (d : Double) (p : ℤ) :
    ratio (d.gridUnits p) = d.value / 10 ^ p ∧ 0 < (d.gridUnits p).2 := by
  obtain ⟨hscale, hden⟩ := ratio_scale (4 * d.significand) one_pos (d.exponent - 2)
  obtain ⟨hunits, hpos⟩ :=
    ratio_inUnits (scale (4 * d.significand) 1 (d.exponent - 2)).1 hden p
  refine ⟨?_, hpos⟩
  rw [gridUnits, hunits, hscale, ratio_one, value, zpow_sub₀ two_ne_zero]
  push_cast
  ring

/-- The step is found as the number is, from a significand of one. -/
theorem gridStep_eq (d : Double) (p : ℤ) :
    (d.gridStep p, (d.gridUnits p).2) =
      inUnits (scale 1 1 (d.exponent - 2)).1 (scale 1 1 (d.exponent - 2)).2 p := by
  simp only [gridStep, gridUnits, scale, inUnits]
  by_cases hq : 0 ≤ d.exponent - 2 <;> by_cases hp : 0 ≤ p <;> simp only [hq, hp, if_true, if_false]

theorem gridStep_ratio (d : Double) (p : ℤ) :
    ratio (d.gridStep p, (d.gridUnits p).2) = 2 ^ d.exponent / 4 / 10 ^ p := by
  obtain ⟨hscale, hden⟩ := ratio_scale 1 one_pos (d.exponent - 2)
  obtain ⟨hunits, -⟩ := ratio_inUnits (scale 1 1 (d.exponent - 2)).1 hden p
  rw [gridStep_eq, hunits, hscale, ratio_one, zpow_sub₀ two_ne_zero]
  push_cast
  ring

theorem onGridInside_iff (d : Double) (p : ℤ) (c : Nat) :
    d.onGridInside p c = true ↔ d.Nearest (decimal c p) := by
  obtain ⟨hvalue, hunit⟩ := gridUnits_ratio d p
  have hstep := gridStep_ratio d p
  have hten : (0 : ℚ) < 10 ^ p := zpow_pos (by norm_num) _
  have hunit' : (0 : ℚ) < (d.gridUnits p).2 := by exact_mod_cast hunit
  simp only [onGridInside]
  generalize d.gridStep p = step at *
  generalize (d.gridUnits p) = units at *
  -- Both sides are compared over the denominator.
  have hscale : (0 : ℚ) < 10 ^ p / units.2 := div_pos hten hunit'
  have hvalue' : (units.1 : ℚ) * (10 ^ p / units.2) = d.value := by
    rw [ratio, div_eq_div_iff hunit'.ne' hten.ne'] at hvalue
    rw [mul_div_assoc', hvalue, mul_div_cancel_right₀ _ hunit'.ne']
  have hstep' : (step : ℚ) * (10 ^ p / units.2) = 2 ^ d.exponent / 4 := by
    rw [ratio, div_eq_div_iff hunit'.ne' hten.ne'] at hstep
    rw [mul_div_assoc', hstep, mul_div_cancel_right₀ _ hunit'.ne']
  have hle (a b : Nat) : a ≤ b ↔ (a : ℚ) * (10 ^ p / units.2) ≤ b * (10 ^ p / units.2) := by
    rw [mul_le_mul_iff_left₀ hscale, Nat.cast_le]
  have hlt (a b : Nat) : a < b ↔ (a : ℚ) * (10 ^ p / units.2) < b * (10 ^ p / units.2) := by
    rw [mul_lt_mul_iff_left₀ hscale, Nat.cast_lt]
  have hpoint : (c * units.2 : ℚ) * (10 ^ p / units.2) = decimal c p := by
    rw [decimal, mul_assoc, mul_div_cancel₀ _ hunit'.ne']
  have habove : ((units.1 + 2 * step : ℕ) : ℚ) * (10 ^ p / units.2) =
      d.value + 2 ^ d.exponent / 2 := by
    push_cast
    linarith
  have hbelow : ((c * units.2 + (if d.significand = exponentBit ∧ -1074 < d.exponent then step
      else 2 * step) : ℕ) : ℚ) * (10 ^ p / units.2) = decimal c p + d.below := by
    rw [below]
    split <;> push_cast <;> linarith
  by_cases heven : d.significand % 2 = 0
  · rw [if_pos heven, decide_eq_true_eq, hle, hle, hbelow, habove, hvalue', Nat.cast_mul, hpoint]
    constructor
    · rintro ⟨hlow, hhigh⟩
      exact ⟨by linarith, hhigh, fun hodd => by omega⟩
    · intro h
      exact ⟨by linarith [h.low], h.high⟩
  · rw [if_neg heven, decide_eq_true_eq, hlt, hlt, hbelow, habove, hvalue', Nat.cast_mul, hpoint]
    constructor
    · rintro ⟨hlow, hhigh⟩
      exact nearest_value _ (by linarith) hhigh
    · intro h
      obtain ⟨hlow, hhigh⟩ := h.odd (by omega)
      exact ⟨by linarith, hhigh⟩

theorem roundHalfEven_cases {a b : Nat} (hb : 0 < b) :
    roundHalfEven a b = a / b ∨ a % b ≠ 0 ∧ roundHalfEven a b = a / b + 1 := by
  simp only [roundHalfEven]
  split
  · exact .inl rfl
  split
  · exact .inr ⟨by omega, rfl⟩
  split
  · exact .inl rfl
  · exact .inr ⟨by omega, rfl⟩

theorem nearest_of_onGrid {d : Double} {p : ℤ} {c : Nat} (h : d.onGrid p = some c) :
    d.Nearest (decimal c p) := by
  rw [← onGridInside_iff]
  rw [onGrid_eq] at h
  simp only at h
  split at h
  · next hfloor hceiling =>
    obtain rfl := Option.some.inj h
    obtain hround | ⟨hremainder, hround⟩ := roundHalfEven_cases (gridUnits_ratio d p).2
    · rwa [hround]
    · rw [if_neg hremainder] at hceiling
      rwa [hround]
  · next hfloor _ => rwa [← Option.some.inj h]
  · next _ hceiling => rwa [← Option.some.inj h]
  · cases h

/-- On a grid of seventeen digits a half of the unit does not get to the middle of two numbers. -/
theorem half_lt_below {d : Double} {p : ℤ} (h : (10 : ℚ) ^ (p + 16) ≤ d.value) :
    10 ^ p / 2 < d.below := by
  have hpow : (0 : ℚ) < 2 ^ d.exponent := zpow_pos two_pos _
  have hsplit : (10 : ℚ) ^ (p + 16) = 10 ^ 16 * 10 ^ p := zpow_add_nat (by norm_num) p 16
  rw [hsplit, value] at h
  unfold below
  split
  · next hm =>
    rw [hm.1, show exponentBit = 2 ^ 52 by decide] at h
    push_cast at h
    linarith
  · have hle := mul_le_mul_of_nonneg_right d.significand_add_one_le hpow.le
    linarith

section

variable {d : Double} {p : ℤ} (h : (10 : ℚ) ^ (p + 16) ≤ d.value)

include h

/-- Where the grid is fine enough, the number is nearest to the nearer one of the points around
it. -/
theorem nearest_point {s : Nat × Nat} (hs : 0 < s.2) (hratio : ratio s = d.value / 10 ^ p) :
    d.Nearest (decimal (s.1 / s.2) p) ∨
      s.1 % s.2 ≠ 0 ∧ d.Nearest (decimal (s.1 / s.2 + 1) p) := by
  obtain ⟨a, b⟩ := s
  have hb : 0 < b := hs
  dsimp only
  have hhalf := half_lt_below h
  have hbelow := d.below_le
  have hpos := d.below_pos
  have hten : (0 : ℚ) < 10 ^ p := zpow_pos (by norm_num) _
  have hb' : (0 : ℚ) < b := by exact_mod_cast hb
  have hdiv := Nat.div_add_mod a b
  have hmod := Nat.mod_lt a hb
  generalize a / b = floor at *
  generalize a % b = remainder at *
  have hvalue : d.value = decimal floor p + remainder / b * 10 ^ p := by
    rw [eq_div_iff hten.ne'] at hratio
    rw [← hratio, ratio, ← hdiv, decimal]
    push_cast
    field_simp
  rcases Nat.lt_or_ge b (2 * remainder) with hfar | hnear
  · right
    have hfraction : (1 : ℚ) / 2 ≤ remainder / b := by
      rw [le_div_iff₀ hb']
      have hcast : (b : ℚ) ≤ 2 * remainder := by exact_mod_cast hfar.le
      linarith
    have hone : (remainder : ℚ) / b ≤ 1 := by
      rw [div_le_one hb']
      exact_mod_cast hmod.le
    have hnext : decimal (floor + 1) p = decimal floor p + 10 ^ p := by
      rw [decimal, decimal]
      push_cast
      ring
    have hoff := mul_le_mul_of_nonneg_right hfraction hten.le
    have hmost := mul_le_mul_of_nonneg_right hone hten.le
    exact ⟨by omega, nearest_value _ (by linarith) (by linarith)⟩
  · left
    have hfraction : (remainder : ℚ) / b ≤ 1 / 2 := by
      rw [div_le_iff₀ hb']
      have hcast : (2 : ℚ) * remainder ≤ b := by exact_mod_cast hnear
      linarith
    have hoff := mul_le_mul_of_nonneg_right hfraction hten.le
    have hnonneg : (0 : ℚ) ≤ remainder / b * 10 ^ p := by positivity
    exact nearest_value _ (by linarith) (by linarith)

/-- A grid that is fine enough for the number holds a point that it is nearest to. -/
theorem onGrid_of_le : ∃ c, d.onGrid p = some c := by
  obtain ⟨hratio, hunit⟩ := gridUnits_ratio d p
  have hpoint := nearest_point h hunit hratio
  rw [← onGridInside_iff, ← onGridInside_iff] at hpoint
  rw [onGrid_eq]
  dsimp only
  split
  · exact ⟨_, rfl⟩
  · exact ⟨_, rfl⟩
  · exact ⟨_, rfl⟩
  · next hfloor hceiling =>
    exfalso
    obtain hinside | ⟨hremainder, hinside⟩ := hpoint
    · rw [hfloor] at hinside
      cases hinside
    · rw [if_neg hremainder, hinside] at hceiling
      cases hceiling

end

/-! ## The shortest decimal -/

/-- Powers of ten beside powers of two: the logarithm of two is between 28/93 and 3/10. -/
theorem ten_le_two {a e : ℤ} (hnonneg : 0 ≤ e → 10 * a ≤ 3 * e)
    (hneg : e < 0 → 93 * a ≤ 28 * e) : (10 : ℚ) ^ a ≤ 2 ^ e := by
  have hten : (0 : ℚ) < 10 ^ a := zpow_pos (by norm_num) _
  have htwo : (0 : ℚ) < 2 ^ e := zpow_pos two_pos _
  rcases Int.lt_or_le e 0 with hlt | hge
  · have hinv : ((10 : ℚ) ^ 28) ^ e ≤ (2 ^ 93) ^ e := by
      obtain ⟨b, rfl⟩ : ∃ b, e = -b := ⟨-e, (neg_neg e).symm⟩
      rw [zpow_neg, zpow_neg]
      exact inv_anti₀ (by positivity) (zpow_le_zpow_left₀ (by omega) (by norm_num) (by norm_num))
    have hpow : ((10 : ℚ) ^ a) ^ 93 ≤ (2 ^ e) ^ 93 := by
      calc
        ((10 : ℚ) ^ a) ^ 93 = 10 ^ (93 * a) := by rw [← zpow_natCast, ← zpow_mul, mul_comm]; rfl
        _ ≤ 10 ^ (28 * e) := zpow_le_zpow_right₀ (by norm_num) (hneg hlt)
        _ = (10 ^ 28) ^ e := by rw [zpow_mul]; norm_num
        _ ≤ (2 ^ 93) ^ e := hinv
        _ = (2 ^ e) ^ 93 := by rw [← zpow_natCast, ← zpow_natCast, ← zpow_mul, ← zpow_mul, mul_comm]
    exact (pow_le_pow_iff_left₀ hten.le htwo.le (by norm_num)).mp hpow
  · have hpow : ((10 : ℚ) ^ a) ^ 10 ≤ (2 ^ e) ^ 10 := by
      calc
        ((10 : ℚ) ^ a) ^ 10 = 10 ^ (10 * a) := by rw [← zpow_natCast, ← zpow_mul, mul_comm]; rfl
        _ ≤ 10 ^ (3 * e) := zpow_le_zpow_right₀ (by norm_num) (hnonneg hge)
        _ = (10 ^ 3) ^ e := by rw [zpow_mul]; norm_num
        _ ≤ (2 ^ 10) ^ e := zpow_le_zpow_left₀ hge (by norm_num) (by norm_num)
        _ = (2 ^ e) ^ 10 := by rw [← zpow_natCast, ← zpow_natCast, ← zpow_mul, ← zpow_mul, mul_comm]
    exact (pow_le_pow_iff_left₀ hten.le htwo.le (by norm_num)).mp hpow

/-- The power of ten under the exponent is at most the quotient: that of the estimate is, and the
search passes no power that is not. -/
theorem decimalExponent_spec {n d : Nat} (hn : 0 < n) (hd : 0 < d)
    (hlow : -1075 ≤ binaryExponent n d) (hhigh : binaryExponent n d ≤ 1075) :
    (10 : ℚ) ^ (decimalExponent n d - 1) ≤ ratio (n, d) := by
  have hsearch : ∀ (rounds : List Nat) (k : ℤ), (10 : ℚ) ^ (k - 1) ≤ ratio (n, d) →
      (10 : ℚ) ^ (rounds.foldl (fun k _ =>
        if (inUnits n d k).2 ≤ (inUnits n d k).1 then k + 1 else k) k - 1) ≤ ratio (n, d) := by
    intro rounds
    induction rounds with
    | nil => exact fun k hk => hk
    | cons round rest ih =>
      intro k hk
      rw [List.foldl_cons]
      apply ih
      split
      · next hle =>
        obtain ⟨hunits, hpos⟩ := ratio_inUnits n hd k
        rw [le_ratio_iff hpos, hunits, le_div_iff₀ (zpow_pos (by norm_num) _), one_mul] at hle
        rwa [add_sub_cancel_right]
      · exact hk
  have hguess : (10 : ℚ) ^ (binaryExponent n d * 30103 / 100000 - 1 - 1) ≤ ratio (n, d) := by
    refine le_trans (ten_le_two (fun h => ?_) fun h => ?_) (binaryExponent_spec hn hd).1
    · omega
    · omega
  rw [decimalExponent]
  exact hsearch (List.range 4) _ hguess

theorem nearest_self (d : Double) : d.Nearest d.value := by
  have hpow : (0 : ℚ) < 2 ^ d.exponent := zpow_pos two_pos _
  have hbelow := d.below_pos
  exact nearest_value _ (by linarith) (by linarith)

theorem decimalExponent_value {d : Double} (hfinite : d.isFinite = true)
    (hd : 0 < d.significand) :
    (10 : ℚ) ^ (decimalExponent (scale d.significand 1 d.exponent).1
      (scale d.significand 1 d.exponent).2 - 1) ≤ d.value := by
  obtain ⟨hvalue, hden⟩ := ratio_scale d.significand one_pos d.exponent
  rw [ratio_one, ← value] at hvalue
  generalize scale d.significand 1 d.exponent = s at *
  have hleast := (nearest_self d).half_le hd
  have hpow : (0 : ℚ) < 2 ^ d.exponent := zpow_pos two_pos _
  have hnum : 0 < s.1 := by
    rcases Nat.eq_zero_or_pos s.1 with hzero | hpos
    · rw [ratio, hzero, Nat.cast_zero, zero_div] at hvalue
      linarith
    · exact hpos
  obtain ⟨hlow, hhigh⟩ := binaryExponent_spec hnum hden
  have hsmall := exponent_ge d
  have hlarge := exponent_le hfinite
  have htop : binaryExponent s.1 s.2 < d.exponent + 53 :=
    (zpow_lt_zpow_iff_right₀ one_lt_two).mp
      (lt_of_le_of_lt (hlow.trans hvalue.le) (nearest_self d).lt)
  have hbottom : d.exponent - 1 < binaryExponent s.1 s.2 + 1 := by
    refine (zpow_lt_zpow_iff_right₀ one_lt_two).mp (lt_of_le_of_lt ?_ hhigh)
    rw [zpow_sub_one₀ two_ne_zero, ← div_eq_mul_inv]
    exact hleast.trans hvalue.ge
  exact (decimalExponent_spec hnum hden (by omega) (by omega)).trans hvalue.le

/-- A positive number is nearest to its shortest decimal: seventeen digits are enough for one. -/
theorem nearest_shortest {d : Double} (hfinite : d.isFinite = true) (hd : 0 < d.significand) :
    d.Nearest (decimal d.shortest.1 d.shortest.2) := by
  have hk := decimalExponent_value hfinite hd
  rw [shortest]
  simp only
  generalize decimalExponent _ _ = k at hk ⊢
  cases hfound : (List.range 17).findSome? fun (i : Nat) =>
      (d.onGrid (k - (i + 1))).map fun c => (c, k - ((i : ℤ) + 1)) with
  | none =>
    have hall := List.findSome?_eq_none_iff.mp hfound 16 (by simp)
    have hfine : (10 : ℚ) ^ (k - ((16 : ℕ) + 1) + 16) ≤ d.value := by
      rwa [show k - ((16 : ℕ) + 1) + 16 = k - 1 by push_cast; ring]
    obtain ⟨c, hc⟩ := onGrid_of_le hfine
    rw [hc] at hall
    cases hall
  | some found =>
    obtain ⟨i, -, hi⟩ := List.exists_of_findSome?_eq_some hfound
    obtain ⟨c, hc, rfl⟩ := Option.map_eq_some_iff.mp hi
    exact nearest_of_onGrid hc

/-- Zeros at the end of the digits are worth as much in the exponent. -/
theorem dropZeros_decimal (fuel c : Nat) (p : ℤ) :
    decimal (dropZeros fuel c p).1 (dropZeros fuel c p).2 = decimal c p := by
  induction fuel generalizing c p with
  | zero => rfl
  | succ fuel ih =>
    rw [dropZeros]
    split
    · next hzero =>
      have hc : (c : ℚ) = 10 * (c / 10 : ℕ) := by
        exact_mod_cast (show c = 10 * (c / 10) by omega)
      rw [ih, decimal, decimal, hc, zpow_add_one₀ (by norm_num)]
      ring
    · rfl

/-- The digits and the exponent that a number is written with. -/
def written (d : Double) : Nat × Int := dropZeros 17 d.shortest.1 d.shortest.2

theorem nearest_written {d : Double} (hfinite : d.isFinite = true) (hd : 0 < d.significand) :
    d.Nearest (decimal d.written.1 d.written.2) := by
  rw [written, dropZeros_decimal]
  exact nearest_shortest hfinite hd

theorem magnitudeText_eq (layout : Layout) (d : Double) :
    magnitudeText layout d =
      if d.significand = 0 then ['0', '.', '0']
      else
        let digits := (toString d.written.1).toList
        let point := d.written.2 + digits.length
        if layout.leastPositional ≤ point - 1 ∧ point - 1 ≤ layout.mostPositional then
          positional digits point
        else scientific layout digits (point - 1) := by
  rw [magnitudeText, written]

end RegistryGateway.Double
