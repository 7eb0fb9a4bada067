import RegistryGateway.Text.Digits
import RegistryGateway.Text.Scalar

/-! UTF-8.  `Utf8.encode` writes characters as bytes; `Utf8.next` takes one character off the front
of some bytes or says which bytes cannot start one, and the strict and the lenient decoder are built
on it. -/

namespace RegistryGateway

abbrev Bytes := List UInt8

/-- Why some bytes are not text: how many of them, from which position, under which encoding. -/
structure DecodeError where
  encoding : String
  bytes : Bytes
  position : Nat
  reason : String

/-- The error names the byte, or the range of positions when there are several. -/
def DecodeError.message (e : DecodeError) : String :=
  match e.bytes with
  | [b] =>
    let shown := String.ofList (hexPadded 2 b.toNat)
    s!"'{e.encoding}' codec can't decode byte 0x{shown} in position {e.position}: {e.reason}"
  | bytes =>
    s!"'{e.encoding}' codec can't decode bytes in position {e.position}-" ++
      s!"{e.position + bytes.length - 1}: {e.reason}"

namespace Utf8

def encodeChar (c : Char) : Bytes :=
  let n := c.toNat
  if n < 0x80 then [UInt8.ofNat n]
  else if n < 0x800 then [UInt8.ofNat (0xC0 + n / 0x40), UInt8.ofNat (0x80 + n % 0x40)]
  else if n < 0x10000 then
    [UInt8.ofNat (0xE0 + n / 0x1000), UInt8.ofNat (0x80 + n / 0x40 % 0x40),
      UInt8.ofNat (0x80 + n % 0x40)]
  else
    [UInt8.ofNat (0xF0 + n / 0x40000), UInt8.ofNat (0x80 + n / 0x1000 % 0x40),
      UInt8.ofNat (0x80 + n / 0x40 % 0x40), UInt8.ofNat (0x80 + n % 0x40)]

def encode (text : List Char) : Bytes := text.flatMap encodeChar

/-- What stands at the front of some bytes: a character and its width, or a fault and how many bytes
it covers. -/
inductive Front
  | char (c : Char) (width : Nat)
  | badStart
  | badContinuation (width : Nat)
  | cutShort (width : Nat)

def isTail (b : Nat) : Bool := 0x80 ≤ b && b ≤ 0xBF

/-- The least and the greatest second byte after a lead byte. -/
def secondRange (lead : Nat) : Nat × Nat :=
  if lead = 0xE0 then (0xA0, 0xBF)
  else if lead = 0xED then (0x80, 0x9F)
  else if lead = 0xF0 then (0x90, 0xBF)
  else if lead = 0xF4 then (0x80, 0x8F)
  else (0x80, 0xBF)

/-- How many bytes a character with this lead byte has, zero for a byte that leads none. -/
def widthOf (lead : Nat) : Nat :=
  if lead < 0x80 then 1
  else if lead < 0xC2 then 0
  else if lead < 0xE0 then 2
  else if lead < 0xF0 then 3
  else if lead < 0xF5 then 4
  else 0

/-- The front of a nonempty sequence of bytes. -/
def next (lead : UInt8) (rest : Bytes) : Front :=
  let a := lead.toNat
  let width := widthOf a
  let (low, high) := secondRange a
  if width = 0 then .badStart
  else if width = 1 then .char (charOfCode a) 1
  else
    match rest with
    | [] => .cutShort 1
    | second :: rest =>
      let b := second.toNat
      if ¬ (low ≤ b ∧ b ≤ high) then .badContinuation 1
      else if width = 2 then .char (charOfCode ((a - 0xC0) * 0x40 + (b - 0x80))) 2
      else
        match rest with
        | [] => .cutShort 2
        | third :: rest =>
          let c := third.toNat
          if ¬ isTail c then .badContinuation 2
          else if width = 3 then
            .char (charOfCode ((a - 0xE0) * 0x1000 + (b - 0x80) * 0x40 + (c - 0x80))) 3
          else
            match rest with
            | [] => .cutShort 3
            | fourth :: _ =>
              let d := fourth.toNat
              if ¬ isTail d then .badContinuation 3
              else
                .char (charOfCode
                  ((a - 0xF0) * 0x40000 + (b - 0x80) * 0x1000 + (c - 0x80) * 0x40 + (d - 0x80))) 4

/-- The three bytes of a surrogate at the front, which are a fault in strict UTF-8. -/
def isSurrogate : Bytes → Bool
  | a :: b :: c :: _ => a = 0xED && 0xA0 ≤ b && b ≤ 0xBF && 0x80 ≤ c && c ≤ 0xBF
  | _ => false

/-- The characters of some bytes, or the first fault.  Surrogates become the replacement character
when they are allowed. -/
def decodeFrom (surrogates : Bool) (position : Nat) :
    Nat → Bytes → Except DecodeError (List Char)
  | 0, _ => .ok []
  | _ + 1, [] => .ok []
  | fuel + 1, bytes@(lead :: rest) =>
    let fault (width : Nat) (reason : String) : Except DecodeError (List Char) :=
      .error ⟨"utf-8", bytes.take width, position, reason⟩
    let more (c : Char) (width : Nat) : Except DecodeError (List Char) :=
      match decodeFrom surrogates (position + width) fuel (bytes.drop width) with
      | .ok text => .ok (c :: text)
      | .error e => .error e
    match next lead rest with
    | .char c width => more c width
    | .badStart => fault 1 "invalid start byte"
    | .cutShort width => fault width "unexpected end of data"
    | .badContinuation width =>
      if surrogates && isSurrogate bytes then more '\uFFFD' 3
      else fault width "invalid continuation byte"

/-- Strict decoding. -/
def decode (bytes : Bytes) : Except DecodeError (List Char) :=
  decodeFrom false 0 bytes.length bytes

/-- Decoding with a replacement character for each fault, for so many characters at most. -/
def decodeLenientFrom : Nat → Bytes → List Char
  | 0, _ => []
  | _ + 1, [] => []
  | fuel + 1, bytes@(lead :: rest) =>
    match next lead rest with
    | .char c width => c :: decodeLenientFrom fuel (bytes.drop width)
    | .badStart => '\uFFFD' :: decodeLenientFrom fuel (bytes.drop 1)
    | .badContinuation width | .cutShort width =>
      '\uFFFD' :: decodeLenientFrom fuel (bytes.drop width)

/-- Decoding with a replacement character for each fault. -/
def decodeLenient (bytes : Bytes) : List Char := decodeLenientFrom bytes.length bytes

end Utf8

end RegistryGateway
