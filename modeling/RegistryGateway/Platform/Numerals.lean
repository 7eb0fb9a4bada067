import RegistryGateway.Platform
import RegistryGateway.Text.Blank
import RegistryGateway.Text.Numeral

/-! Numbers in text.  White space around a number is dropped and a sign may stand in front.  An
integer may start with zeros and end with a point and zeros; a double is read without any
underscores, if need be, that stand between other characters. -/

namespace RegistryGateway.Numerals

/-- Whether a text starts with a plain integer of too many digits. -/
def isOversized (text : List Char) : Bool :=
  let digits := match text with
    | '-' :: rest => rest
    | rest => rest
  match digits with
  | '0' :: _ => false
  | digits => digitLimit < (digits.takeWhile isDecimalDigit).length

/-- The zeros at the front of a text, with the underscores among them, and what follows. -/
def leadingZeros : List Char → List Char × List Char
  | '0' :: rest =>
    let isMark (c : Char) : Bool := c = '0' || c = '_'
    ('0' :: rest.takeWhile isMark, rest.dropWhile isMark)
  | text => ([], text)

/-- An integer in text.  A minus sign may also stand behind leading zeros. -/
def integer (s : String) : Except NumeralFault Int :=
  let text := trim s.toList
  if isOversized text then .error .oversized
  else
    let (negative, rest) := afterSign text
    let (zeros, rest) := leadingZeros rest
    let (negative, rest) := match negative, rest with
      | false, '-' :: rest => if zeros.isEmpty then (false, '-' :: rest) else (true, rest)
      | negative, rest => (negative, rest)
    let (digits, rest) := leadingDigits rest
    let ends := match rest with
      | [] => true
      | '.' :: zeros => !zeros.isEmpty && zeros.all (· = '0')
      | _ => false
    if digits.isEmpty && zeros.getLast? ≠ some '0' || !ends || digitLimit < digits.length then
      .error .malformed
    else
      let size : Int := decimalValue digits
      .ok (if negative then -size else size)

/-- The exponent that a text consists of, zero for the empty text. -/
def exponent? (text : List Char) : Option Int :=
  match text with
  | [] => some 0
  | mark :: rest =>
    if mark = 'e' ∨ mark = 'E' then
      let (negative, digits) := afterSign rest
      if digits.isEmpty || !digits.all isDecimalDigit then none
      else
        let size : Int := decimalValue digits
        some (if negative then -size else size)
    else none

/-- A decimal with an optional sign, point and exponent, or a word for infinity or NaN. -/
def decimal? (text : List Char) : Option Double :=
  let (negative, rest) := afterSign text
  let word := String.ofList (rest.map Char.toLower)
  if word = "inf" ∨ word = "infinity" then some (.infinity negative)
  else if word = "nan" then some .nan
  else
    let whole := rest.takeWhile isDecimalDigit
    let rest := rest.dropWhile isDecimalDigit
    let (places, rest) := match rest with
      | '.' :: rest => (rest.takeWhile isDecimalDigit, rest.dropWhile isDecimalDigit)
      | rest => ([], rest)
    match exponent? rest with
    | some power =>
      if whole.isEmpty && places.isEmpty then none
      else some (.ofDecimal negative (decimalValue (whole ++ places)) (power - places.length))
    | none => none

/-- A text without its underscores, of which none may stand at an end or beside another. -/
def withoutUnderscores? (text : List Char) : Option (List Char) :=
  let adjoining := (text.zip text.tail).contains ('_', '_')
  if text.head? = some '_' || text.getLast? = some '_' || adjoining then none
  else some (text.filter (· ≠ '_'))

/-- A double in text: the trimmed text is tried first, then the text without its underscores. -/
def real (s : String) : Option Double :=
  (decimal? (trim s.toList)).orElse fun _ => (withoutUnderscores? s.toList).bind decimal?

end RegistryGateway.Numerals
