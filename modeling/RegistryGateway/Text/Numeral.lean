import RegistryGateway.Text.Digits

/-! Signs and digits at the front of a text.  A single underscore may separate two digits. -/

namespace RegistryGateway

/-- The digits after a first one, with the underscores between digits dropped, and what follows. -/
def digitsAfter : List Char → List Char × List Char
  | [] => ([], [])
  | ['_'] => ([], ['_'])
  | '_' :: c :: rest =>
    if isDecimalDigit c then
      let (digits, rest) := digitsAfter rest
      (c :: digits, rest)
    else ([], '_' :: c :: rest)
  | c :: rest =>
    if isDecimalDigit c then
      let (digits, rest) := digitsAfter rest
      (c :: digits, rest)
    else ([], c :: rest)

/-- The digits at the front of a text and what follows them. -/
def leadingDigits : List Char → List Char × List Char
  | [] => ([], [])
  | c :: rest =>
    if isDecimalDigit c then
      let (digits, rest) := digitsAfter rest
      (c :: digits, rest)
    else ([], c :: rest)

/-- Whether a text is negative, and the text after its sign. -/
def afterSign : List Char → Bool × List Char
  | '-' :: rest => (true, rest)
  | '+' :: rest => (false, rest)
  | rest => (false, rest)

end RegistryGateway
