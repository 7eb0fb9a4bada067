import RegistryGateway.Platform
import RegistryGateway.Shape.Basic

/-! The numbers and flags that values are read as.  Numbers in text are read by the platform. -/

namespace RegistryGateway.Shape

def lowerAscii (c : Char) : Char := if 'A' ≤ c ∧ c ≤ 'Z' then Char.ofNat (c.toNat + 32) else c

variable [Platform]

/-- An integer in text. -/
def integerOfText (s : String) : Except Fault Int :=
  match Platform.integerOfText s with
  | .ok i => .ok i
  | .error .malformed => .error .integerText
  | .error .oversized => .error .integerSize

/-- A double in text. -/
def realOfText (s : String) : Except Fault Double :=
  match Platform.realOfText s with
  | some d => .ok d
  | none => .error .realText

/-- A flag in text: one of a few words in any letter case. -/
def flagOfText (s : String) : Except Fault Bool :=
  let word := String.ofList (s.toList.map lowerAscii)
  if ["1", "t", "true", "y", "yes", "on"].contains word then .ok true
  else if ["0", "f", "false", "n", "no", "off"].contains word then .ok false
  else .error .flagText

/-- The bounds of 64-bit integers. -/
def int64Limit : Int := 9223372036854775808

/-- A double read as an integer: it has to be finite, without a fraction, and below 64 bits. -/
def integerOfReal (d : Double) : Except Fault Int :=
  if !d.isFinite then .error .notFinite
  else
    match d.toInt? with
    | none => .error .integerFraction
    | some i => if -int64Limit < i ∧ i < int64Limit then .ok i else .error .integerSize

def toInteger : Json → Except Fault Int
  | .int i => .ok i
  | .bool b => .ok (if b then 1 else 0)
  | .float d => integerOfReal d
  | .str s => integerOfText s
  | _ => .error .notInteger

def toReal : Json → Except Fault Double
  | .float d => .ok d
  | .int i =>
    match Double.ofInt? i with
    | some d => .ok d
    | none => .error .notReal
  | .bool b => .ok (.ofDecimal false (if b then 1 else 0) 0)
  | .str s => realOfText s
  | _ => .error .notReal

def flagOfInteger (i : Int) : Except Fault Bool :=
  if i = 0 then .ok false else if i = 1 then .ok true else .error .flagText

def toFlag : Json → Except Fault Bool
  | .bool b => .ok b
  | .str s => flagOfText s
  | .int i => if -int64Limit ≤ i ∧ i < int64Limit then flagOfInteger i else .error .notFlag
  | .float d =>
    match integerOfReal d with
    | .ok i => flagOfInteger i
    | .error _ => .error .notFlag
  | _ => .error .notFlag

end RegistryGateway.Shape

namespace RegistryGateway

def Bound.allowsInteger (i : Int) : Bound → Bool
  | .atMost n => i ≤ n
  | .atLeast n => n ≤ i
  | .above n => n < i

/-- Whether a double keeps a bound; NaN keeps none. -/
def Bound.allowsReal (d : Double) (b : Bound) : Bool :=
  let limit (n : Int) := (Double.ofInt? n).getD .nan
  match b with
  | .atMost n => d.le (limit n)
  | .atLeast n => (limit n).le d
  | .above n => (limit n).lt d

end RegistryGateway
