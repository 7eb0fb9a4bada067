import RegistryGateway.Json.Reader
import RegistryGateway.Platform

/-! Reading JSON from bytes.  The encoding is found from a byte order mark or from where the zero
bytes of the first characters stand.  `decode` reads values however deep they are nested, and
replaces surrogates that stand alone; `load` reads a value unless it is nested deeper than the
platform goes. -/

namespace RegistryGateway.Json

/-- An encoding of JSON text and the length of its byte order mark, if it has one. -/
inductive Encoding
  | utf8 (mark : Nat)
  | utf16 (bigEndian : Bool) (mark : Nat)
  | utf32 (bigEndian : Bool) (mark : Nat)

/-- The encoding that the first bytes show. -/
def Encoding.detect (bytes : Bytes) : Encoding :=
  match bytes with
  | 0x00 :: 0x00 :: 0xFE :: 0xFF :: _ => .utf32 true 4
  | 0xFF :: 0xFE :: 0x00 :: 0x00 :: _ => .utf32 false 4
  | 0xFE :: 0xFF :: _ => .utf16 true 2
  | 0xFF :: 0xFE :: _ => .utf16 false 2
  | 0xEF :: 0xBB :: 0xBF :: _ => .utf8 3
  | a :: b :: c :: d :: _ =>
    if a = 0 then if b = 0 then .utf32 true 0 else .utf16 true 0
    else if b = 0 then if c = 0 ∧ d = 0 then .utf32 false 0 else .utf16 false 0
    else .utf8 0
  | [a, b] => if a = 0 then .utf16 true 0 else if b = 0 then .utf16 false 0 else .utf8 0
  | _ => .utf8 0

def wordValue (bigEndian : Bool) (bytes : Bytes) : Nat :=
  (if bigEndian then bytes else bytes.reverse).foldl (fun n b => n * 256 + b.toNat) 0

/-- The bytes cut into words of `width`, and the bytes left over. -/
def words16 (bigEndian : Bool) : Bytes → List Nat × Bytes
  | a :: b :: rest =>
    let (words, left) := words16 bigEndian rest
    (wordValue bigEndian [a, b] :: words, left)
  | left => ([], left)

/-- The characters of 16-bit units; a surrogate without its partner becomes the replacement
character. -/
def ofUnits : List Nat → List Char
  | [] => []
  | [unit] => [charOfCode unit]
  | high :: low :: rest =>
    if isHighSurrogate high && isLowSurrogate low then
      joinSurrogates high low :: ofUnits rest
    else charOfCode high :: ofUnits (low :: rest)

/-- The characters of 32-bit words from a position on. -/
def ofWords (bigEndian : Bool) (position : Nat) : Bytes → Except DecodeError (List Char)
  | [] => .ok []
  | a :: b :: c :: d :: rest =>
    let n := wordValue bigEndian [a, b, c, d]
    if 0x110000 ≤ n then
      .error ⟨if bigEndian then "utf-32-be" else "utf-32-le", [a, b, c, d], position,
        "code point not in range(0x110000)"⟩
    else
      match ofWords bigEndian (position + 4) rest with
      | .ok text => .ok (charOfCode n :: text)
      | .error e => .error e
  | left =>
    .error ⟨if bigEndian then "utf-32-be" else "utf-32-le", left, position, "truncated data"⟩

/-- The text of some bytes in the encoding they show. -/
def textOf (bytes : Bytes) : Except DecodeError (List Char) :=
  match Encoding.detect bytes with
  | .utf8 mark => Utf8.decodeFrom true 0 bytes.length (bytes.drop mark)
  | .utf16 bigEndian mark =>
    let (units, left) := words16 bigEndian (bytes.drop mark)
    if left.isEmpty then .ok (ofUnits units)
    else
      .error ⟨if bigEndian then "utf-16-be" else "utf-16-le", left, bytes.length - left.length,
        "truncated data"⟩
  | .utf32 bigEndian mark => ofWords bigEndian mark (bytes.drop mark)

inductive DecodeFailure
  | encoding (e : DecodeError)
  | text (e : ReadError)

def DecodeFailure.message : DecodeFailure → String
  | .encoding e => e.message
  | .text e => e.message

def decode (bytes : Bytes) : Except DecodeFailure Json :=
  match textOf bytes with
  | .error e => .error (.encoding e)
  | .ok text =>
    match read text with
    | .error e => .error (.text e)
    | .ok v => .ok v

/-- Why no value is loaded from some bytes. -/
inductive LoadFailure
  | decoding (e : DecodeFailure)
  /-- The content is nested too deep for the platform. -/
  | nesting (e : Raised)

def LoadFailure.message : LoadFailure → String
  | .decoding e => e.message
  | .nesting e => e.message

def load [Platform] (bytes : Bytes) : Except LoadFailure Json :=
  match Platform.readFault? bytes with
  | some e => .error (.nesting e)
  | none =>
    match decode bytes with
    | .error e => .error (.decoding e)
    | .ok v => .ok v

theorem load_eq_ok_iff [Platform] {bytes : Bytes} {v : Json} :
    load bytes = .ok v ↔ Platform.readFault? bytes = none ∧ decode bytes = .ok v := by
  rw [load]
  cases Platform.readFault? bytes with
  | some e => simp
  | none => cases decode bytes <;> simp

end RegistryGateway.Json
