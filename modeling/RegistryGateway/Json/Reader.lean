import RegistryGateway.Json.Value
import RegistryGateway.Text.Digits
import RegistryGateway.Text.Scalar

/-! Reading JSON text.  `Json.read` accepts the standard grammar and the words `NaN`, `Infinity` and
`-Infinity`, and says where and why it refuses.  The reader works on the characters left; the
position of a refusal is found from how many were left. -/

namespace RegistryGateway.Json

inductive Refusal
  | value
  | propertyName
  | colon
  | comma
  | extraData
  | controlCharacter
  | unterminatedString
  | escape
  | unicodeEscape
  /-- An integer of more digits than the limit. -/
  | digits (count : Nat)
  deriving DecidableEq

namespace Refusal

/-- What the refusal says about its place in the text. -/
def reason : Refusal → String
  | .value => "Expecting value"
  | .propertyName => "Expecting property name enclosed in double quotes"
  | .colon => "Expecting ':' delimiter"
  | .comma => "Expecting ',' delimiter"
  | .extraData => "Extra data"
  | .controlCharacter => "Invalid control character at"
  | .unterminatedString => "Unterminated string starting at"
  | .escape => "Invalid \\escape"
  | .unicodeEscape => "Invalid \\uXXXX escape"
  | .digits count =>
    s!"Exceeds the limit ({digitLimit} digits) for integer string conversion: value has " ++
      s!"{count} digits; use sys.set_int_max_str_digits() to increase the limit"

end Refusal

/-- A refusal and the index of the character where it arose. -/
structure ReadError where
  refusal : Refusal
  text : List Char
  position : Nat

/-- The refusal with its line, column and index; a number of too many digits has no place. -/
def ReadError.message (e : ReadError) : String :=
  match e.refusal with
  | .digits count => (Refusal.digits count).reason
  | refusal =>
    let before := e.text.take e.position
    let line := before.count '\n' + 1
    let column := (before.reverse.takeWhile (· ≠ '\n')).length + 1
    s!"{refusal.reason}: line {line} column {column} (char {e.position})"

/-- A value read and the characters left, or a refusal and the characters left at its place. -/
abbrev Step (α : Type) := Except (Refusal × List Char) (α × List Char)

/-- A step followed by one that takes its value and the characters it left. -/
def Step.andThen {α β : Type} (step : Step α) (next : α → List Char → Step β) : Step β :=
  match step with
  | .error failure => .error failure
  | .ok (v, rest) => next v rest

def isBlank (c : Char) : Bool := c = ' ' || c = '\t' || c = '\n' || c = '\r'

def skipBlank (rest : List Char) : List Char := rest.dropWhile isBlank

/-- Four hexadecimal digits with at least one character after them. -/
def unit? (rest : List Char) : Option Nat :=
  if 4 < rest.length then hexValue? (rest.take 4) else none

/-- The character of `\u` escapes, given the text from the `u` on.  A high surrogate joins the low
one escaped right after it. -/
def unicodeEscape (fromU : List Char) : Step Char :=
  let rest := fromU.tail
  match unit? rest with
  | none => .error (.unicodeEscape, fromU)
  | some unit =>
    let after := rest.drop 4
    match after with
    | '\\' :: 'u' :: next =>
      if isHighSurrogate unit && 4 < next.length then
        match hexValue? (next.take 4) with
        | none => .error (.unicodeEscape, 'u' :: next)
        | some second =>
          if isLowSurrogate second then
            .ok (joinSurrogates unit second, next.drop 4)
          else .ok (charOfCode unit, after)
      else .ok (charOfCode unit, after)
    | _ => .ok (charOfCode unit, after)

/-- The character that a one-letter escape stands for. -/
def shortEscape? : Char → Option Char
  | '"' => some '"'
  | '\\' => some '\\'
  | '/' => some '/'
  | 'b' => some '\x08'
  | 'f' => some '\x0c'
  | 'n' => some '\n'
  | 'r' => some '\r'
  | 't' => some '\t'
  | _ => none

/-- The rest of a string after its opening quote; `opening` is the text from the quote on. -/
def stringTail (opening : List Char) : Nat → List Char → List Char → Step String
  | 0, _, _ => .error (.unterminatedString, opening)
  | fuel + 1, seen, rest =>
    match rest with
    | [] => .error (.unterminatedString, opening)
    | '"' :: rest => .ok (String.ofList seen.reverse, rest)
    | ['\\'] => .error (.unterminatedString, opening)
    | '\\' :: 'u' :: after =>
      (unicodeEscape ('u' :: after)).andThen fun c rest => stringTail opening fuel (c :: seen) rest
    | '\\' :: letter :: after =>
      match shortEscape? letter with
      | some c => stringTail opening fuel (c :: seen) after
      | none => .error (.escape, rest)
    | c :: after =>
      if c.toNat < 0x20 then .error (.controlCharacter, rest)
      else stringTail opening fuel (c :: seen) after

/-- A string, given the text from its opening quote on. -/
def string (opening : List Char) : Step String :=
  stringTail opening (opening.length + 1) [] opening.tail

/-- The digits and the rest of a fraction, if one starts here. -/
def fraction (rest : List Char) : List Char × List Char :=
  match rest with
  | '.' :: digit :: after =>
    if isDecimalDigit digit then
      ((digit :: after).takeWhile isDecimalDigit, (digit :: after).dropWhile isDecimalDigit)
    else ([], rest)
  | _ => ([], rest)

/-- The value and the rest of an exponent, if one starts here. -/
def exponent (rest : List Char) : Option Int × List Char :=
  match rest with
  | mark :: after =>
    if mark = 'e' ∨ mark = 'E' then
      let (negative, digits) := match after with
        | '-' :: digits => (true, digits)
        | '+' :: digits => (false, digits)
        | digits => (false, digits)
      let run := digits.takeWhile isDecimalDigit
      if run.isEmpty then (none, rest)
      else
        let size : Int := decimalValue run
        (some (if negative then -size else size), digits.dropWhile isDecimalDigit)
    else (none, rest)
  | [] => (none, rest)

/-- A number: an integer, or a double when it has a fraction or an exponent. -/
def number (start : List Char) : Step Json :=
  let (negative, rest) := match start with
    | '-' :: rest => (true, rest)
    | rest => (false, rest)
  let whole := match rest with
    | '0' :: _ => ['0']
    | rest => rest.takeWhile isDecimalDigit
  if whole.isEmpty then .error (.value, start)
  else
    let rest := rest.drop whole.length
    let (places, rest) := fraction rest
    let (power, rest) := exponent rest
    if places.isEmpty && power.isNone then
      if digitLimit < whole.length then .error (.digits whole.length, start)
      else
        let size : Int := decimalValue whole
        .ok (.int (if negative then -size else size), rest)
    else
      let size := decimalValue (whole ++ places)
      .ok (.float (Double.ofDecimal negative size (power.getD 0 - places.length)), rest)

/-- The text after a word, if it starts with the word. -/
def afterWord? : List Char → List Char → Option (List Char)
  | [], rest => some rest
  | _ :: _, [] => none
  | w :: word, c :: rest => if w = c then afterWord? word rest else none

def words : List (List Char × Json) :=
  [(['n', 'u', 'l', 'l'], .null), (['t', 'r', 'u', 'e'], .bool true),
    (['f', 'a', 'l', 's', 'e'], .bool false), (['N', 'a', 'N'], .float .nan),
    (['I', 'n', 'f', 'i', 'n', 'i', 't', 'y'], .float (.infinity false)),
    (['-', 'I', 'n', 'f', 'i', 'n', 'i', 't', 'y'], .float (.infinity true))]

def scalar (start : List Char) : Step Json :=
  match words.findSome? fun (word, v) => (afterWord? word start).map (v, ·) with
  | some read => .ok read
  | none => number start

mutual

/-- One value.  Each unit of fuel pays for a call, and a text never needs more than twice its
length. -/
def value : Nat → List Char → Step Json
  | 0, start => .error (.value, start)
  | fuel + 1, start =>
    match start with
    | '"' :: _ => (string start).andThen fun s rest => .ok (.str s, rest)
    | '[' :: rest =>
      match skipBlank rest with
      | ']' :: rest => .ok (.arr [], rest)
      | rest => (items fuel rest).andThen fun items rest => .ok (.arr items, rest)
    | '{' :: rest =>
      match skipBlank rest with
      | '}' :: rest => .ok (.obj [], rest)
      | rest =>
        (members fuel rest).andThen fun members rest => .ok (.obj (Assoc.ofPairs members), rest)
    | _ => scalar start

/-- The items of an array from the first on, with the closing bracket. -/
def items : Nat → List Char → Step (List Json)
  | 0, start => .error (.value, start)
  | fuel + 1, start =>
    (value fuel start).andThen fun v rest =>
      match skipBlank rest with
      | ']' :: rest => .ok ([v], rest)
      | ',' :: rest =>
        (items fuel (skipBlank rest)).andThen fun more rest => .ok (v :: more, rest)
      | rest => .error (.comma, rest)

/-- The members of an object from the first on, with the closing brace, repeated keys kept. -/
def members : Nat → List Char → Step (List (String × Json))
  | 0, start => .error (.propertyName, start)
  | fuel + 1, start =>
    match start with
    | '"' :: _ =>
      (string start).andThen fun key rest =>
        match skipBlank rest with
        | ':' :: rest =>
          (value fuel (skipBlank rest)).andThen fun v rest =>
            match skipBlank rest with
            | '}' :: rest => .ok ([(key, v)], rest)
            | ',' :: rest =>
              (members fuel (skipBlank rest)).andThen fun more rest => .ok ((key, v) :: more, rest)
            | rest => .error (.comma, rest)
        | rest => .error (.colon, rest)
    | _ => .error (.propertyName, start)

end

/-- The value of a whole text, with blanks allowed around it. -/
def read (text : List Char) : Except ReadError Json :=
  let locate (failure : Refusal × List Char) : ReadError :=
    ⟨failure.1, text, text.length - failure.2.length⟩
  match value (2 * text.length + 2) (skipBlank text) with
  | .error failure => .error (locate failure)
  | .ok (v, rest) =>
    match skipBlank rest with
    | [] => .ok v
    | rest => .error (locate (.extraData, rest))

end RegistryGateway.Json
