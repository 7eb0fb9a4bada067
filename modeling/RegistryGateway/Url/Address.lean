import RegistryGateway.Text.Digits

/-! Internet addresses in text. -/

namespace RegistryGateway.Url

/-- The pieces of a text between the occurrences of a separator; a text without one is one piece. -/
def splitOn (separator : Char) : List Char → List (List Char)
  | [] => [[]]
  | c :: rest =>
    if c = separator then [] :: splitOn separator rest
    else
      match splitOn separator rest with
      | [] => [[c]]
      | piece :: pieces => (c :: piece) :: pieces

/-- A decimal number up to 255 of at most three digits without a leading zero. -/
def isOctet (text : List Char) : Bool :=
  !text.isEmpty && text.all isDecimalDigit && text.length ≤ 3 &&
    (text == ['0'] || text.head? != some '0') && decimalValue text ≤ 255

/-- Four octets with points between them. -/
def isIpv4 (text : List Char) : Bool :=
  let octets := splitOn '.' text
  octets.length == 4 && octets.all isOctet

/-- One to four hexadecimal digits. -/
def isHextet (text : List Char) : Bool :=
  !text.isEmpty && text.all isHexDigit && text.length ≤ 4

/-- The text before a zone, which must not be empty nor hold a second percent sign. -/
def withoutZone? (text : List Char) : Option (List Char) :=
  match splitOn '%' text with
  | [address] => some address
  | [address, zone] => if zone.isEmpty then none else some address
  | _ => none

/-- The parts of an address with a trailing IPv4 address counted as two parts. -/
def expandIpv4? (parts : List (List Char)) : Option (List (List Char)) :=
  match parts.getLast? with
  | some last =>
    if last.contains '.' then
      if isIpv4 last then some (parts.dropLast ++ [['0'], ['0']]) else none
    else some parts
  | none => none

/-- The positions of the empty parts other than the first and the last. -/
def innerGaps (parts : List (List Char)) : List Nat :=
  (List.range parts.length).filter fun i =>
    0 < i && i + 1 < parts.length && (parts[i]?.getD []).isEmpty

/-- Parts without a gap: exactly eight, none empty. -/
def isFullAddress (parts : List (List Char)) : Bool :=
  parts.length == 8 && parts.all isHextet

/-- Parts with one gap, which stands for at least one part.  An empty part at an end belongs to the
gap beside it. -/
def isGappedAddress (parts : List (List Char)) (gap : Nat) : Bool :=
  let before := parts.take gap
  let after := parts.drop (gap + 1)
  let high := if before.head? = some [] then before.drop 1 else before
  let low := if after.getLast? = some [] then after.dropLast else after
  (before.head? ≠ some [] || high.isEmpty) && (after.getLast? ≠ some [] || low.isEmpty) &&
    high.length + low.length < 8 && high.all isHextet && low.all isHextet

/-- An IPv6 address, which may end in an IPv4 address and carry a zone. -/
def isIpv6 (text : List Char) : Bool :=
  match withoutZone? text with
  | none => false
  | some address =>
    let parts := splitOn ':' address
    if parts.length < 3 then false
    else
      match expandIpv4? parts with
      | none => false
      | some parts =>
        if 9 < parts.length then false
        else
          match innerGaps parts with
          | [] => isFullAddress parts
          | [gap] => isGappedAddress parts gap
          | _ => false

end RegistryGateway.Url
