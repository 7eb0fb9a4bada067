import RegistryGateway.Text.CaseTable
import RegistryGateway.Text.Scalar

/-! Upper and lower case of Unicode text.  One letter may become several, and a capital sigma
becomes the final form at the end of a word. -/

namespace RegistryGateway.Unicode

/-- The code point at the other end of the run that holds `n`, or `n` itself. -/
def alongRun (runs : List CaseRun) (n : Nat) : Nat :=
  match runs.find? (·.holds n) with
  | some r => ((n : Int) + r.distance).toNat
  | none => n

def upperChar (c : Char) : List Char :=
  let n := c.toNat
  if n < 0x80 then [if 'a' ≤ c ∧ c ≤ 'z' then charOfCode (n - 0x20) else c]
  else
    match upperExpansions.find? (·.1 == n) with
    | some (_, letters) => letters.map charOfCode
    | none => [charOfCode (alongRun upperRuns n)]

/-- The lower case of a character other than a capital sigma. -/
def lowerChar (c : Char) : List Char :=
  let n := c.toNat
  if n < 0x80 then [if 'A' ≤ c ∧ c ≤ 'Z' then charOfCode (n + 0x20) else c]
  else if n = 0x130 then ['i', charOfCode 0x307]
  else [charOfCode (alongRun lowerRuns n)]

def isIgnorable (c : Char) : Bool := inRanges ignorableRanges c.toNat

def isCased (c : Char) : Bool := inRanges casedRanges c.toNat

/-- Whether the first character that counts is a letter with case. -/
def meetsCased (neighbours : List Char) : Bool :=
  match neighbours.dropWhile isIgnorable with
  | [] => false
  | c :: _ => isCased c

/-- The lower case of a text after the characters `before`, nearest first. -/
def lowerFrom (before : List Char) : List Char → List Char
  | [] => []
  | c :: after =>
    let letters :=
      if c = 'Σ' then [if meetsCased before && !meetsCased after then 'ς' else 'σ']
      else lowerChar c
    letters ++ lowerFrom (c :: before) after

end RegistryGateway.Unicode

namespace RegistryGateway

def upper (s : String) : String := String.ofList (s.toList.flatMap Unicode.upperChar)

def lower (s : String) : String := String.ofList (Unicode.lowerFrom [] s.toList)

end RegistryGateway
