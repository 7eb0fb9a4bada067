import RegistryGateway.Platform.Numerals
import RegistryGateway.Text.Charset

/-! The standard platform: one choice of everything that the gateway and its client rest on, in
force where the names of `Platform` are open.  It generates identifiers by counting. -/

namespace RegistryGateway

namespace Json

mutual

/-- How many values stand inside one another, the innermost counted. -/
def depth : Json → Nat
  | .arr items => depthItems items + 1
  | .obj members => depthMembers members + 1
  | _ => 1

def depthItems : List Json → Nat
  | [] => 0
  | v :: rest => max (depth v) (depthItems rest)

def depthMembers : List (String × Json) → Nat
  | [] => 0
  | (_, v) :: rest => max (depth v) (depthMembers rest)

end

/-- The depth from which on values are not written. -/
def writeLimit : Nat := 255

/-- How many brackets may be open while JSON is read. -/
def readLimit : Nat := 950

/-- A text from the bracket on that opens one level too many, if some bracket does.  Brackets in
strings do not count. -/
def overNested? (depth : Nat) (quoted : Bool) : List Char → Option (List Char)
  | [] => none
  | '\\' :: _ :: rest => overNested? depth quoted rest
  | c :: rest =>
    if c = '"' then overNested? depth (!quoted) rest
    else if quoted then overNested? depth quoted rest
    else if c = '[' ∨ c = '{' then
      if depth = readLimit then some (c :: rest) else overNested? (depth + 1) quoted rest
    else if c = ']' ∨ c = '}' then overNested? (depth - 1) quoted rest
    else overNested? depth quoted rest

/-- Whether some text may stand in front of a value: with one behind it, nothing is wrong before the
end. -/
def mayPrecede (text : List Char) : Bool :=
  let filled := text ++ "null".toList
  match read filled with
  | .ok _ => true
  | .error e => e.position = filled.length

end Json

namespace Platform

def writeFault (v : Json) : Option Raised :=
  if Json.writeLimit ≤ v.depth then
    some ⟨"ValueError", "Circular reference detected (depth exceeded)"⟩
  else none

def readFault (bytes : Bytes) : Option Raised :=
  match Json.textOf bytes with
  | .error _ => none
  | .ok text =>
    match Json.overNested? 0 false text with
    | none => none
    | some rest =>
      if Json.mayPrecede (text.take (text.length - rest.length)) then
        let kind := if rest.head? = some '[' then "array" else "object"
        some ⟨"RecursionError",
          s!"maximum recursion depth exceeded while decoding a JSON {kind} from a unicode string"⟩
      else none

/-- The server stands in for a host that is missing or has characters that hosts do not have. -/
def hostOrServer : Option String → List Char
  | none => "testserver".toList
  | some host =>
    if host.toList.all fun c => c.isAlphanum || c = '-' || c = '.' || c = ':' then host.toList
    else "testserver".toList

/-- The characters that would end a path are escaped, and the backslash is. -/
def escapedChar (c : Char) : List Char :=
  if c = '?' then ['%', '3', 'F']
  else if c = '#' then ['%', '2', '3']
  else if c = '\\' then ['%', '5', 'C']
  else [c]

theorem escapedChar_cases (c : Char) : escapedChar c = [c] ∨
    ∃ x y, escapedChar c = ['%', x, y] ∧ isHexDigit x = true ∧ isHexDigit y = true := by
  simp only [escapedChar]
  split
  · exact .inr ⟨'3', 'F', rfl, rfl, rfl⟩
  split
  · exact .inr ⟨'2', '3', rfl, rfl, rfl⟩
  split
  · exact .inr ⟨'5', 'C', rfl, rfl, rfl⟩
  · exact .inl rfl

/-! ## Identifiers -/

def identifierStart : List Char := "00000000-0000-4000-8000-".toList

/-- The digits of a serial number in hexadecimal, with zeros up to twelve digits. -/
def serialDigits (serial : Nat) : List Char :=
  let digits := Nat.toDigits 16 serial
  List.replicate (12 - digits.length) '0' ++ digits

def countedIdentifier (serial : Nat) : String :=
  .ofList (identifierStart ++ serialDigits serial)

theorem hexValue?_append_singleton (digits : List Char) (c : Char) :
    hexValue? (digits ++ [c]) =
      (hexValue? digits).bind fun n => (hexDigit? c).map (n * 16 + ·) := by
  rw [hexValue?, List.foldlM_append]
  cases h : digits.foldlM (fun n c => (hexDigit? c).map (n * 16 + ·)) 0 <;> simp [hexValue?, h]

theorem hexDigit?_digitChar : ∀ n < 16, hexDigit? n.digitChar = some n := by decide

/-- A number is read off its hexadecimal digits behind any number of zeros. -/
theorem hexValue?_toDigits (zeros n : Nat) :
    hexValue? (List.replicate zeros '0' ++ Nat.toDigits 16 n) = some n := by
  have hzeros : hexValue? (List.replicate zeros '0') = some 0 := by
    induction zeros with
    | zero => rfl
    | succ zeros ih =>
      rw [List.replicate_succ', hexValue?_append_singleton, ih]
      rfl
  induction n using Nat.strongRecOn with
  | ind n ih =>
    rcases Nat.lt_or_ge n 16 with hlt | hge
    · rw [Nat.toDigits_of_lt_base hlt, hexValue?_append_singleton, hzeros,
        hexDigit?_digitChar n hlt]
      simp
    · rw [Nat.toDigits_of_base_le (by decide) hge, ← List.append_assoc,
        hexValue?_append_singleton, ih (n / 16) (by omega), hexDigit?_digitChar _ (by omega)]
      simp only [Option.bind_some, Option.map_some, Option.some.injEq]
      omega

theorem countedIdentifier_injective : Function.Injective countedIdentifier := by
  intro m n h
  have hchars := congrArg String.toList h
  rw [countedIdentifier, countedIdentifier, String.toList_ofList, String.toList_ofList] at hchars
  have hvalue := congrArg hexValue? (List.append_cancel_left hchars)
  rw [serialDigits, serialDigits, hexValue?_toDigits, hexValue?_toDigits] at hvalue
  exact Option.some.inj hvalue

theorem isHexDigit_toDigits (n : Nat) : ∀ c ∈ Nat.toDigits 16 n, isHexDigit c = true := by
  have hdigit (n : Nat) (h : n < 16) : isHexDigit n.digitChar = true := by
    rw [isHexDigit, hexDigit?_digitChar n h]
    rfl
  induction n using Nat.strongRecOn with
  | ind n ih =>
    rcases Nat.lt_or_ge n 16 with hlt | hge
    · rw [Nat.toDigits_of_lt_base hlt, List.forall_mem_singleton]
      exact hdigit n hlt
    · rw [Nat.toDigits_of_base_le (by decide) hge, List.forall_mem_append,
        List.forall_mem_singleton]
      exact ⟨ih (n / 16) (by omega), hdigit _ (Nat.mod_lt n (by decide))⟩

theorem countedIdentifier_chars (serial : Nat) :
    ∀ c ∈ (countedIdentifier serial).toList, isHexDigit c = true ∨ c = '-' := by
  have hall : (identifierStart.all fun c => isHexDigit c || c == '-') = true := rfl
  have hstart : ∀ c ∈ identifierStart, isHexDigit c = true ∨ c = '-' := by simpa using hall
  rw [countedIdentifier, String.toList_ofList, List.forall_mem_append]
  refine ⟨hstart, fun c hc => .inl ?_⟩
  obtain hc | hc := List.mem_append.mp hc
  · rw [List.eq_of_mem_replicate hc]
    rfl
  · exact isHexDigit_toDigits serial c hc

theorem countedIdentifier_ne_empty (serial : Nat) : countedIdentifier serial ≠ "" := by
  intro h
  have hchars := congrArg String.toList h
  rw [countedIdentifier, String.toList_ofList] at hchars
  cases hchars

scoped instance standard : Platform where
  integerOfText := Numerals.integer
  realOfText := Numerals.real
  writeFault? := writeFault
  readFault? := readFault
  replyText contentType bytes := .ok (.ofList ((Charset.ofContentType contentType).decode bytes))
  urlHost := hostOrServer
  urlChar := escapedChar
  identifier := countedIdentifier
  urlChar_slash := rfl
  urlChar_cases := escapedChar_cases
  identifier_injective := countedIdentifier_injective
  identifier_ne_empty := countedIdentifier_ne_empty
  identifier_chars := countedIdentifier_chars

end Platform

end RegistryGateway
