import RegistryGateway.Url.Percent
import RegistryGateway.Url.Split

/-! Form encoding of named values, as a query carries them: `name=value` with `&` between pairs, a
plus sign for a space, and escapes for every character that is not unreserved. -/

namespace RegistryGateway.Url

def formChar (c : Char) : List Char :=
  if c = ' ' then ['+'] else if isUnreserved c then [c] else percentChar c

def formText (text : List Char) : List Char := text.flatMap formChar

def formPair (pair : List Char × List Char) : List Char :=
  formText pair.1 ++ '=' :: formText pair.2

/-- Pairs in order; a name may be repeated. -/
def formEncode (pairs : List (List Char × List Char)) : List Char :=
  joinChars ['&'] (pairs.map formPair)

def formTextDecode (text : List Char) : List Char :=
  percentDecode (text.map fun c => if c = '+' then ' ' else c)

/-- The pairs of a query, which are none for the empty text. -/
def formDecode (text : List Char) : List (List Char × List Char) :=
  if text.isEmpty then []
  else
    (splitOn '&' text).map fun piece =>
      let (name, value) := cutAt '=' piece
      (formTextDecode name, formTextDecode value)

end RegistryGateway.Url
