import RegistryGateway.Double.Basic

/-! The shortest decimal text of a double.  `Double.shortest` finds the fewest digits that read
back, and of those the nearest to the value; `Double.text` lays them out. -/

namespace RegistryGateway.Double

/-- `numerator / denominator` in units of `10 ^ p`. -/
def inUnits (numerator denominator : Nat) (p : Int) : Nat × Nat :=
  if 0 ≤ p then (numerator, denominator * Nat.pow 10 p.toNat)
  else (numerator * Nat.pow 10 (-p).toNat, denominator)

/-- The power of ten `k` with `10 ^ (k - 1) ≤ numerator / denominator < 10 ^ k`, searched upward
from an estimate by the binary exponent. -/
def decimalExponent (numerator denominator : Nat) : Int :=
  let guess := (binaryExponent numerator denominator * 30103) / 100000 - 1
  (List.range 4).foldl (fun k _ =>
    let (n, d) := inUnits numerator denominator k
    if d ≤ n then k + 1 else k) guess

/-- The decimal with `places` digits nearest to the value, as a multiple of `10 ^ p`, if one lies
in the interval of the reals that round to it.  All bounds are in quarters of the last place. -/
def onGrid (d : Double) (p : Int) : Option Nat :=
  let m := d.significand
  let q := d.exponent - 2
  let (value, unit) := (fun s : Nat × Nat => inUnits s.1 s.2 p) (scale (4 * m) 1 q)
  let step := if 0 ≤ q then 1 <<< q.toNat else 1
  let step := if 0 ≤ p then step else step * Nat.pow 10 (-p).toNat
  let above := 2 * step
  let below := if m = exponentBit ∧ -1074 < d.exponent then step else 2 * step
  let inside (c : Nat) : Bool :=
    let point := c * unit
    if m % 2 = 0 then value ≤ point + below ∧ point ≤ value + above
    else value < point + below ∧ point < value + above
  let floor := value / unit
  let remainder := value % unit
  let ceiling := if remainder = 0 then floor else floor + 1
  let nearest := roundHalfEven value unit
  match inside floor, inside ceiling with
  | true, true => some nearest
  | true, false => some floor
  | false, true => some ceiling
  | false, false => none

/-- The fewest digits that read back as the value, nearest of those: a pair `(c, p)` for
`c * 10 ^ p`. -/
def shortest (d : Double) : Nat × Int :=
  let (n, unit) := scale d.significand 1 d.exponent
  let k := decimalExponent n unit
  ((List.range 17).findSome? fun (i : Nat) =>
    let p := k - (i + 1)
    (d.onGrid p).map (·, p)).getD (0, 0)

/-- A coefficient without its trailing zeros, moved into the exponent. -/
def dropZeros : Nat → Nat → Int → Nat × Int
  | 0, c, p => (c, p)
  | fuel + 1, c, p => if c % 10 = 0 then dropZeros fuel (c / 10) (p + 1) else (c, p)

/-- How a decimal is laid out: the exponents written positionally and the texts of the values
without digits. -/
structure Layout where
  leastPositional : Int
  mostPositional : Int
  exponentWidth : Nat
  nanText : String
  infinityText : String

/-- Positional from `0.0001` up to below `10 ^ 16`, always with a fraction; otherwise with a signed
exponent of at least two digits. -/
def plain : Layout := ⟨-4, 15, 2, "nan", "inf"⟩

/-- The digits laid out with the decimal point after `point` of them. -/
def positional (digits : List Char) (point : Int) : List Char :=
  if point ≤ 0 then
    '0' :: '.' :: (List.replicate (-point).toNat '0' ++ digits)
  else
    let whole := digits.take point.toNat
    let fraction := digits.drop point.toNat
    let padded := whole ++ List.replicate (point.toNat - whole.length) '0'
    padded ++ '.' :: (if fraction.isEmpty then ['0'] else fraction)

/-- The digits laid out with an exponent of ten. -/
def scientific (layout : Layout) (digits : List Char) (exponent : Int) : List Char :=
  let mantissa := match digits with
    | first :: second :: rest => first :: '.' :: second :: rest
    | short => short
  let size := (toString exponent.natAbs).toList
  mantissa ++ 'e' :: (if exponent < 0 then '-' else '+') ::
    (List.replicate (layout.exponentWidth - size.length) '0' ++ size)

/-- The magnitude of a finite number as text. -/
def magnitudeText (layout : Layout) (d : Double) : List Char :=
  if d.significand = 0 then ['0', '.', '0']
  else
    let (c, p) := d.shortest
    let (c, p) := dropZeros 17 c p
    let digits := (toString c).toList
    let point := p + digits.length
    if layout.leastPositional ≤ point - 1 ∧ point - 1 ≤ layout.mostPositional then
      positional digits point
    else scientific layout digits (point - 1)

/-- The text of a number under a layout. -/
def textIn (layout : Layout) (d : Double) : String :=
  if d.isNaN then layout.nanText
  else
    let sign := if d.negative then "-" else ""
    if d.isInfinite then sign ++ layout.infinityText
    else sign ++ String.ofList (magnitudeText layout d)

/-- The text of a number under the plain layout. -/
def text (d : Double) : String := d.textIn plain

end RegistryGateway.Double
