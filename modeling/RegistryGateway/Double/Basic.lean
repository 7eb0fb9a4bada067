/-! Double-precision numbers as their 64 bits, with arithmetic that computes the exact rational
result and rounds it once.  Every operation goes through `Double.round`, the nearest representable
value with ties to the even significand. -/

namespace RegistryGateway

/-- A double-precision number, given by its sign bit, 11 exponent bits and 52 fraction bits. Two
are equal when their bits are: zero and negative zero differ, and a NaN equals itself. -/
structure Double where
  bits : UInt64
  deriving DecidableEq, Inhabited

/-- The quotient `a / b` rounded to the nearest integer, a half going to the even neighbour. -/
def roundHalfEven (a b : Nat) : Nat :=
  let quotient := a / b
  let remainder := a % b
  if 2 * remainder < b then quotient
  else if b < 2 * remainder then quotient + 1
  else if quotient % 2 = 0 then quotient
  else quotient + 1

namespace Double

/-- The place value of the sign bit. -/
def signBit : Nat := 0x8000000000000000

/-- The place value of the lowest exponent bit, above all fraction bits. -/
def exponentBit : Nat := 0x10000000000000

/-- The bits of positive infinity. -/
def infinityBits : Nat := 0x7FF0000000000000

def infinity (negative : Bool) : Double :=
  ⟨UInt64.ofNat ((if negative then signBit else 0) + infinityBits)⟩

def nan : Double := ⟨0x7FF8000000000000⟩

def zero : Double := ⟨0⟩

def negative (d : Double) : Bool := signBit ≤ d.bits.toNat

/-- The exponent and fraction bits, without the sign. -/
def magnitudeBits (d : Double) : Nat := d.bits.toNat % signBit

/-- Either zero. -/
def isZero (d : Double) : Bool := d.magnitudeBits == 0

def isNaN (d : Double) : Bool := infinityBits < d.magnitudeBits

def isInfinite (d : Double) : Bool := d.magnitudeBits == infinityBits

def isFinite (d : Double) : Bool := d.magnitudeBits < infinityBits

/-- The significand `m` of the magnitude `m * 2 ^ q` of a finite number. -/
def significand (d : Double) : Nat :=
  let fraction := d.magnitudeBits % exponentBit
  if d.magnitudeBits / exponentBit = 0 then fraction else fraction + exponentBit

/-- The exponent `q` of the magnitude `m * 2 ^ q` of a finite number. -/
def exponent (d : Double) : Int :=
  let field : Nat := d.magnitudeBits / exponentBit
  if field = 0 then -1074 else (field : Int) - 1075

/-- `numerator * 2 ^ q / denominator` as a pair of naturals. -/
def scale (numerator denominator : Nat) (q : Int) : Nat × Nat :=
  if 0 ≤ q then (numerator <<< q.toNat, denominator)
  else (numerator, denominator <<< (-q).toNat)

/-- The power of two `e` with `2 ^ e ≤ numerator / denominator < 2 ^ (e + 1)`. -/
def binaryExponent (numerator denominator : Nat) : Int :=
  let guess : Int := (numerator.log2 : Int) - denominator.log2
  let (n, d) := scale numerator denominator (-guess)
  if d ≤ n then guess else guess - 1

/-- The number nearest to `± numerator / denominator`, ties going to the even significand, and
infinity from half a unit above the largest finite number on. -/
def round (negative : Bool) (numerator denominator : Nat) : Double :=
  let sign := if negative then signBit else 0
  if numerator = 0 then ⟨UInt64.ofNat sign⟩
  else
    let q := max (binaryExponent numerator denominator - 52) (-1074)
    let (n, d) := scale numerator denominator (-q)
    let magnitude := (q + 1074).toNat * exponentBit + roundHalfEven n d
    ⟨UInt64.ofNat (sign + min magnitude infinityBits)⟩

/-- The number nearest to an integer; `none` beyond the largest finite number. -/
def ofInt? (i : Int) : Option Double :=
  if i.natAbs.log2 ≤ 1024 then
    let d := round (i < 0) i.natAbs 1
    if d.isFinite then some d else none
  else none

/-- The number nearest to `± digits * 10 ^ exponent`. -/
def ofDecimal (negative : Bool) (digits : Nat) (exponent : Int) : Double :=
  if digits = 0 then round negative 0 1
  else if 400 < exponent then infinity negative
  else if exponent + digits.log2 + 1 < -400 then round negative 0 1
  else if 0 ≤ exponent then round negative (digits * Nat.pow 10 exponent.toNat) 1
  else round negative digits (Nat.pow 10 (-exponent).toNat)

/-- The signed significand of a finite number. -/
def signedSignificand (d : Double) : Int :=
  if d.negative then -(d.significand : Int) else d.significand

/-- The finite number as an integer, when it has no fraction. -/
def toInt? (d : Double) : Option Int :=
  if d.isFinite then
    if 0 ≤ d.exponent then some (d.signedSignificand <<< d.exponent.toNat)
    else
      let unit : Nat := 1 <<< (-d.exponent).toNat
      if d.significand % unit = 0 then
        let whole : Int := d.significand / unit
        some (if d.negative then -whole else whole)
      else none
  else none

inductive Unroundable
  | infinite
  | nan
  deriving DecidableEq

/-- The nearest integer, a half going to the even neighbour. -/
def toNearestInt (d : Double) : Except Unroundable Int :=
  if d.isNaN then .error .nan
  else if d.isInfinite then .error .infinite
  else
    let (n, unit) := scale d.significand 1 d.exponent
    let whole : Int := roundHalfEven n unit
    .ok (if d.negative then -whole else whole)

/-- The greatest integer that is not above a finite number. -/
def floor (d : Double) : Int :=
  let (n, unit) := scale d.significand 1 d.exponent
  Int.fdiv (if d.negative then -(n : Int) else n) unit

/-- The exact integer multiple of `2 ^ q`, rounded. -/
def ofDyadic (i : Int) (q : Int) : Double :=
  let (n, d) := scale i.natAbs 1 q
  round (i < 0) n d

/-- The difference, exact and then rounded. -/
def sub (a b : Double) : Double :=
  if a.isNaN || b.isNaN then nan
  else if a.isInfinite then
    if b.isInfinite && a.negative == b.negative then nan else a
  else if b.isInfinite then infinity (!b.negative)
  else
    let q := min a.exponent b.exponent
    let left := a.signedSignificand <<< (a.exponent - q).toNat
    let right := b.signedSignificand <<< (b.exponent - q).toNat
    ofDyadic (left - right) q

/-- The product with a positive factor, exact and then rounded. -/
def scaleBy (d : Double) (factor : Nat) : Double :=
  if d.isFinite then
    let (n, unit) := scale (d.significand * factor) 1 d.exponent
    round d.negative n unit
  else d

/-- `a ≤ b`, false when either is NaN. -/
def le (a b : Double) : Bool :=
  if a.isNaN || b.isNaN then false
  else
    let key (d : Double) : Int :=
      if d.negative then -(d.magnitudeBits : Int) else d.magnitudeBits
    key a ≤ key b

/-- `a < b`, false when either is NaN. -/
def lt (a b : Double) : Bool :=
  if a.isNaN || b.isNaN then false else !b.le a

end Double

end RegistryGateway
