import RegistryGateway.Shape.Number
import RegistryGateway.Proofs.Rounding

/-! The integers that values are read as.  An integer is read as itself, a flag as zero or one, a
double as its value when this is an integer of fewer than 64 bits, and a text as the platform reads
it.  Nothing else is read as an integer. -/

namespace RegistryGateway

namespace Double

/-- The number that a finite double is. -/
def rational (d : Double) : ℚ := if d.negative then -d.value else d.value

/-- A double is an integer when its magnitude is one. -/
theorem value_eq_natCast_iff (d : Double) (n : ℕ) :
    d.value = n ↔
      if 0 ≤ d.exponent then d.significand * 2 ^ d.exponent.toNat = n
      else d.significand = n * 2 ^ (-d.exponent).toNat := by
  rw [value]
  split
  next he =>
    have hpow : (2 : ℚ) ^ d.exponent = 2 ^ d.exponent.toNat := by
      rw [← zpow_natCast, Int.toNat_of_nonneg he]
    rw [hpow]
    norm_cast
  next he =>
    have hpow : (2 : ℚ) ^ d.exponent * 2 ^ (-d.exponent).toNat = 1 := by
      rw [← zpow_natCast, Int.toNat_of_nonneg (by omega), ← zpow_add₀ (by norm_num)]
      simp
    have hpos : (2 : ℚ) ^ (-d.exponent).toNat ≠ 0 := by positivity
    rw [← mul_left_inj' hpos, mul_assoc, hpow, mul_one]
    norm_cast

/-- A finite double is read as an integer when its magnitude is a natural number. -/
theorem toInt?_eq_some_iff_magnitude {d : Double} (h : d.isFinite = true) (i : ℤ) :
    d.toInt? = some i ↔ ∃ n : ℕ, d.value = n ∧ (if d.negative then -n else n : ℤ) = i := by
  simp only [toInt?, h, if_true, value_eq_natCast_iff]
  split
  next he =>
    simp only [exists_eq_left', Option.some.injEq, Int.shiftLeft_eq, signedSignificand]
    split <;> push_cast <;> simp
  next he =>
    rw [Nat.one_shiftLeft]
    have hpos : 0 < 2 ^ (-d.exponent).toNat := Nat.two_pow_pos _
    split
    next hmod =>
      have hdiv (n : ℕ) : d.significand = n * 2 ^ (-d.exponent).toNat ↔
          d.significand / 2 ^ (-d.exponent).toNat = n := by
        constructor
        · intro hn
          rw [hn, Nat.mul_div_cancel _ hpos]
        · rintro rfl
          exact (Nat.div_mul_cancel (Nat.dvd_of_mod_eq_zero hmod)).symm
      simp only [hdiv, exists_eq_left', Option.some.injEq]
      norm_cast
    next hmod =>
      refine iff_of_false (Option.some_ne_none i).symm ?_
      rintro ⟨n, hn, -⟩
      rw [hn, Nat.mul_mod_left] at hmod
      exact hmod rfl

theorem toInt?_eq_some_iff {d : Double} (h : d.isFinite = true) (i : ℤ) :
    d.toInt? = some i ↔ d.rational = i := by
  have hnonneg : 0 ≤ d.value := by
    rw [value]
    positivity
  rw [toInt?_eq_some_iff_magnitude h, rational]
  constructor
  · rintro ⟨n, hn, rfl⟩
    split <;> simp [hn]
  · intro hi
    have hvalue : d.value = ((if d.negative then -i else i : ℤ) : ℚ) := by
      split at hi
      next hneg => rw [if_pos hneg, Int.cast_neg, ← hi, neg_neg]
      next hneg => rw [if_neg hneg, hi]
    rw [hvalue] at hnonneg
    obtain ⟨n, hn⟩ := Int.eq_ofNat_of_zero_le (Int.cast_nonneg_iff.mp hnonneg)
    rw [hn] at hvalue
    refine ⟨n, by exact_mod_cast hvalue, ?_⟩
    rw [← hn]
    split <;> simp

end Double

namespace Shape

theorem integerOfReal_eq_ok_iff (d : Double) (i : Int) :
    integerOfReal d = .ok i ↔
      d.isFinite = true ∧ d.rational = i ∧ -2 ^ 63 < i ∧ i < 2 ^ 63 := by
  rw [integerOfReal]
  by_cases hfinite : d.isFinite = true
  · have hlimit : int64Limit = 2 ^ 63 := rfl
    rw [← Double.toInt?_eq_some_iff hfinite, hlimit]
    simp only [hfinite, Bool.not_true, Bool.false_eq_true, if_false, true_and]
    cases d.toInt? with
    | none => simp
    | some j =>
      simp only [Option.some.injEq]
      constructor
      · intro h
        split at h
        next hj =>
          cases h
          exact ⟨rfl, hj⟩
        · cases h
      · rintro ⟨rfl, hj⟩
        rw [if_pos hj]
  · simp [hfinite]

variable [Platform]

/-- The integer that a value is read as. -/
inductive LaxInteger : Json → Int → Prop
  | int (i : Int) : LaxInteger (.int i) i
  | flag (b : Bool) : LaxInteger (.bool b) (if b then 1 else 0)
  | real {d : Double} {i : Int} :
      d.isFinite = true → d.rational = i → -2 ^ 63 < i → i < 2 ^ 63 → LaxInteger (.float d) i
  | text {s : String} {i : Int} : Platform.integerOfText s = .ok i → LaxInteger (.str s) i

theorem integerOfText_eq_ok_iff (s : String) (i : Int) :
    integerOfText s = .ok i ↔ Platform.integerOfText s = .ok i := by
  rw [integerOfText]
  split
  next h => rw [h, Except.ok.injEq, Except.ok.injEq]
  all_goals next h => simp [h]

theorem toInteger_eq_ok_iff (v : Json) (i : Int) : toInteger v = .ok i ↔ LaxInteger v i := by
  constructor
  · intro h
    cases v with
    | int =>
      cases h
      exact .int i
    | bool b =>
      cases h
      exact .flag b
    | float d =>
      obtain ⟨hfinite, hvalue, hlow, hhigh⟩ := (integerOfReal_eq_ok_iff d i).mp h
      exact .real hfinite hvalue hlow hhigh
    | str s => exact .text ((integerOfText_eq_ok_iff s i).mp h)
    | null | arr | obj => cases h
  · intro h
    cases h with
    | int | flag => rfl
    | real hfinite hvalue hlow hhigh =>
      exact (integerOfReal_eq_ok_iff _ i).mpr ⟨hfinite, hvalue, hlow, hhigh⟩
    | text hs => exact (integerOfText_eq_ok_iff _ i).mpr hs

end Shape

end RegistryGateway
