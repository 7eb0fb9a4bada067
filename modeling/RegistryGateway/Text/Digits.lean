/-! Digits of numbers in bases ten and sixteen. -/

namespace RegistryGateway

def decimalDigit? (c : Char) : Option Nat :=
  if '0' ≤ c ∧ c ≤ '9' then some (c.toNat - '0'.toNat) else none

def isDecimalDigit (c : Char) : Bool := (decimalDigit? c).isSome

/-- The value of a hexadecimal digit in either case. -/
def hexDigit? (c : Char) : Option Nat :=
  if '0' ≤ c ∧ c ≤ '9' then some (c.toNat - '0'.toNat)
  else if 'a' ≤ c ∧ c ≤ 'f' then some (c.toNat - 'a'.toNat + 10)
  else if 'A' ≤ c ∧ c ≤ 'F' then some (c.toNat - 'A'.toNat + 10)
  else none

def isHexDigit (c : Char) : Bool := (hexDigit? c).isSome

/-- The value of a run of decimal digits, zero for the empty run. -/
def decimalValue (digits : List Char) : Nat :=
  digits.foldl (fun n c => n * 10 + (decimalDigit? c).getD 0) 0

def hexChar (n : Nat) : Char := ("0123456789abcdef".toList)[n]?.getD '0'

def upperHexChar (n : Nat) : Char := ("0123456789ABCDEF".toList)[n]?.getD '0'

/-- The last `width` lower-case hexadecimal digits of a number, leading zeros kept. -/
def hexPadded : Nat → Nat → List Char
  | 0, _ => []
  | width + 1, n => hexPadded width (n / 16) ++ [hexChar (n % 16)]

/-- The value of a run of hexadecimal digits; `none` if some character is not one. -/
def hexValue? (digits : List Char) : Option Nat :=
  digits.foldlM (fun n c => (hexDigit? c).map (n * 16 + ·)) 0

/-- The decimal digits of a number, padded with zeros on the left. -/
def decimalPadded (width n : Nat) : List Char :=
  let digits := (toString n).toList
  List.replicate (width - digits.length) '0' ++ digits

/-- The most digits of an integer that is turned into text or back. -/
def digitLimit : Nat := 4300

/-- Whether an integer can be turned into text. -/
def hasText (i : Int) : Bool := (Nat.toDigits 10 i.natAbs).length ≤ digitLimit

/-- The items with a separator between neighbours. -/
def joinChars (separator : List Char) : List (List Char) → List Char
  | [] => []
  | [item] => item
  | item :: rest => item ++ separator ++ joinChars separator rest

end RegistryGateway
