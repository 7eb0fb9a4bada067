import RegistryGateway.Http.Service
import RegistryGateway.Platform.Standard
import RegistryGateway.Proofs.Reading

/-! The wire format of responses.  A body is sent as printable ASCII, and the service's own reader
takes the same body off the bytes: the same kinds of value, the same characters and digits, the same
order of keys. -/

namespace RegistryGateway

/-- A character from the space to the tilde. -/
def isGraphic (c : Char) : Bool := 0x20 ≤ c.toNat && c.toNat ≤ 0x7E

theorem isGraphic_of_isDecimalDigit {c : Char} (h : isDecimalDigit c = true) :
    isGraphic c = true := by
  have hrange : '0' ≤ c ∧ c ≤ '9' := by
    unfold isDecimalDigit decimalDigit? at h
    split at h
    · assumption
    · cases h
  obtain ⟨hlow, hhigh⟩ := hrange
  rw [Char.le_def, UInt32.le_iff_toNat_le] at hlow hhigh
  have hlow : 48 ≤ c.toNat := hlow
  have hhigh : c.toNat ≤ 57 := hhigh
  simp only [isGraphic, Bool.and_eq_true, decide_eq_true_eq]
  omega

theorem isGraphic_hexChar : ∀ n < 16, isGraphic (hexChar n) = true := by
  decide

theorem all_isGraphic_hexPadded (width n : Nat) : (hexPadded width n).all isGraphic = true := by
  induction width generalizing n with
  | zero => rfl
  | succ width ih =>
    rw [hexPadded, List.all_append, ih, List.all_cons,
      isGraphic_hexChar (n % 16) (Nat.mod_lt _ (by decide))]
    rfl

namespace Json

theorem all_isGraphic_codeEscape (c : Char) : (codeEscape c).all isGraphic = true := by
  have hunit (n : Nat) : (unitEscape n).all isGraphic = true := by
    rw [unitEscape, List.all_cons, List.all_cons, all_isGraphic_hexPadded]
    rfl
  rw [codeEscape]
  split
  · exact hunit _
  · rw [List.all_append, hunit, hunit, Bool.and_self]

theorem all_isGraphic_escapeChar (c : Char) : (escapeChar true c).all isGraphic = true := by
  unfold escapeChar
  repeat' split
  all_goals try rfl
  · exact all_isGraphic_codeEscape c
  · exact all_isGraphic_codeEscape c
  · next hlow hhigh =>
    simp only [Bool.true_and, decide_eq_true_eq] at hhigh
    simp only [List.all_cons, List.all_nil, Bool.and_true, isGraphic, Bool.and_eq_true,
      decide_eq_true_eq]
    omega

theorem all_isGraphic_quoted (s : String) : (quoted true s).all isGraphic = true := by
  have hchars : (s.toList.flatMap (escapeChar true)).all isGraphic = true := by
    rw [List.all_flatMap]
    exact List.all_eq_true.mpr fun c _ => all_isGraphic_escapeChar c
  rw [quoted, List.all_cons, List.all_append, hchars]
  rfl

theorem Numeral.all_isGraphic_text {n : Numeral} (h : n.WellFormed) :
    n.text.all isGraphic = true := by
  have hdigits {digits : List Char} (h : ∀ c ∈ digits, isDecimalDigit c = true) :
      digits.all isGraphic = true :=
    List.all_eq_true.mpr fun c hc => isGraphic_of_isDecimalDigit (h c hc)
  have hsign : (signText n.negative).all isGraphic = true := by
    cases n.negative <;> rfl
  have hplaces : (placesText n.places).all isGraphic = true := by
    unfold placesText
    split
    · rfl
    · rw [List.all_cons, hdigits h.places]
      rfl
  have hpower : (powerText n.power).all isGraphic = true := by
    cases hp : n.power with
    | none => rfl
    | some power =>
      obtain ⟨negative, digits⟩ := power
      rw [powerText, List.all_cons, List.all_cons, hdigits (h.power negative digits hp).2]
      cases negative <;> rfl
  rw [text, List.all_append, List.all_append, List.all_append, hsign, hdigits h.whole, hplaces,
    hpower]
  rfl

mutual

theorem all_isGraphic_chars : ∀ v : Json, v.allFinite = true →
    (chars wireStyle v).all isGraphic = true
  | .null, _ => rfl
  | .bool true, _ => rfl
  | .bool false, _ => rfl
  | .int i, _ => by
    rw [chars, Numeral.ofInt_text]
    exact Numeral.all_isGraphic_text (Numeral.ofInt_wellFormed i)
  | .float d, hfinite => by
    rw [chars, Numeral.ofDouble_text numberLayout hfinite]
    exact Numeral.all_isGraphic_text (Numeral.ofDouble_wellFormed numberLayout hfinite)
  | .str s, _ => all_isGraphic_quoted s
  | .arr items, hfinite => by
    rw [chars, List.all_cons, List.all_append, all_isGraphic_itemChars items hfinite]
    rfl
  | .obj members, hfinite => by
    rw [chars, List.all_cons, List.all_append, all_isGraphic_memberChars members hfinite]
    rfl

theorem all_isGraphic_itemChars : ∀ vs : List Json, allFiniteItems vs = true →
    (itemChars wireStyle vs).all isGraphic = true
  | [], _ => rfl
  | [v], hfinite => all_isGraphic_chars v (Bool.and_eq_true_iff.mp hfinite).1
  | v :: w :: more, hfinite => by
    obtain ⟨hv, hmore⟩ := Bool.and_eq_true_iff.mp hfinite
    rw [itemChars_cons_cons, List.all_append, List.all_append, all_isGraphic_chars v hv,
      all_isGraphic_itemChars (w :: more) hmore]
    rfl

theorem all_isGraphic_memberChars : ∀ ms : List (String × Json), allFiniteMembers ms = true →
    (memberChars wireStyle ms).all isGraphic = true
  | [], _ => rfl
  | [(k, v)], hfinite => by
    rw [memberChars, List.all_append, List.all_append,
      all_isGraphic_chars v (Bool.and_eq_true_iff.mp hfinite).1]
    exact (Bool.and_true _).trans ((Bool.and_true _).trans (all_isGraphic_quoted k))
  | (k, v) :: m :: more, hfinite => by
    obtain ⟨hv, hmore⟩ := Bool.and_eq_true_iff.mp hfinite
    rw [memberChars_cons_cons]
    simp only [List.all_append, all_isGraphic_chars v hv, all_isGraphic_memberChars (m :: more) hmore,
      show (quoted wireStyle.asciiOnly k).all isGraphic = true from all_isGraphic_quoted k]
    rfl

end

end Json

/-! ## Bytes -/

namespace Utf8

theorem encodeChar_of_isGraphic {c : Char} (h : isGraphic c = true) :
    encodeChar c = [UInt8.ofNat c.toNat] := by
  simp only [isGraphic, Bool.and_eq_true, decide_eq_true_eq] at h
  rw [encodeChar, if_pos (by omega)]

/-- Graphic text is as many bytes, each between the space and the tilde. -/
theorem mem_encode_of_isGraphic {text : List Char} (h : text.all isGraphic = true) {b : UInt8}
    (hb : b ∈ encode text) : 0x20 ≤ b.toNat ∧ b.toNat ≤ 0x7E := by
  obtain ⟨c, hc, hbyte⟩ := List.mem_flatMap.mp hb
  have hgraphic := List.all_eq_true.mp h c hc
  rw [encodeChar_of_isGraphic hgraphic, List.mem_singleton] at hbyte
  simp only [isGraphic, Bool.and_eq_true, decide_eq_true_eq] at hgraphic
  rw [hbyte, toNat_ofNat (by omega)]
  exact hgraphic

/-- Strict decoding gives back the text that was encoded. -/
theorem decodeFrom_encode (surrogates : Bool) (text : List Char) (position fuel : Nat)
    (hfuel : (encode text).length ≤ fuel) :
    decodeFrom surrogates position fuel (encode text) = .ok text := by
  induction text generalizing position fuel with
  | nil => cases fuel <;> rfl
  | cons c text ih =>
    obtain ⟨lead, tail, hbytes, -, hnext⟩ := next_encodeChar c (encode text)
    have hencode : encode (c :: text) = lead :: (tail ++ encode text) := by
      rw [encode, List.flatMap_cons, hbytes]
      rfl
    rw [hencode, List.length_cons, List.length_append] at hfuel
    obtain ⟨fuel, rfl⟩ : ∃ k, fuel = k + 1 := ⟨fuel - 1, by omega⟩
    have hdrop : (lead :: (tail ++ encode text)).drop (tail.length + 1) = encode text := by
      rw [List.drop_succ_cons, List.drop_left]
    rw [hencode, decodeFrom, hnext]
    simp only [hdrop, ih _ fuel (by omega)]

end Utf8

namespace Json

/-- Bytes that start with a brace and another character are taken for UTF-8. -/
theorem detect_brace {b : UInt8} (hb : b ≠ 0) (rest : Bytes) :
    Encoding.detect (0x7B :: b :: rest) = .utf8 0 := by
  have hbrace : (0x7B : UInt8) ≠ 0 := by decide
  rcases rest with _ | ⟨c, _ | ⟨d, rest⟩⟩
  · show (if (0x7B : UInt8) = 0 then Encoding.utf16 true 0 else
      if b = 0 then .utf16 false 0 else .utf8 0) = _
    rw [if_neg hbrace, if_neg hb]
  · rfl
  · show (if (0x7B : UInt8) = 0 then if b = 0 then Encoding.utf32 true 0 else .utf16 true 0 else
      if b = 0 then if c = 0 ∧ d = 0 then .utf32 false 0 else .utf16 false 0 else .utf8 0) = _
    rw [if_neg hbrace, if_neg hb]

/-- The reader takes the text of an object off its bytes. -/
theorem textOf_encode {c : Char} (hc : isGraphic c = true) (text : List Char) :
    textOf (Utf8.encode ('{' :: c :: text)) = .ok ('{' :: c :: text) := by
  have hbytes : Utf8.encode ('{' :: c :: text) =
      0x7B :: UInt8.ofNat c.toNat :: Utf8.encode text := by
    rw [Utf8.encode, List.flatMap_cons, List.flatMap_cons, Utf8.encodeChar_of_isGraphic hc]
    rfl
  have hne : UInt8.ofNat c.toNat ≠ 0 := by
    intro hzero
    simp only [isGraphic, Bool.and_eq_true, decide_eq_true_eq] at hc
    have hvalue := congrArg UInt8.toNat hzero
    rw [Utf8.toNat_ofNat (by omega), UInt8.toNat_zero] at hvalue
    omega
  have hdecode := Utf8.decodeFrom_encode true ('{' :: c :: text) 0 _ (Nat.le_refl _)
  rw [hbytes] at hdecode ⊢
  rw [textOf, detect_brace hne]
  exact hdecode

end Json

/-! ## Bodies -/

namespace Json

/-- What follows the brace in front of an object is graphic in every style. -/
theorem memberChars_close (style : Style) (members : List (String × Json)) :
    ∃ c text, memberChars style members ++ ['}'] = c :: text ∧ isGraphic c = true := by
  cases members with
  | nil => exact ⟨'}', [], rfl, rfl⟩
  | cons m more =>
    obtain ⟨text, hchars⟩ := memberChars_cons style m more
    exact ⟨'"', text ++ ['}'], by rw [hchars, List.cons_append], rfl⟩

/-- An object written in a standard style is decoded to what it was, unless an integer in it has
more digits than are read. -/
theorem decode_standard {style : Style} (hstyle : style.Standard) {members : List (String × Json)}
    (hkeys : (obj members).all distinctKeys = true) (hfinite : (obj members).allFinite = true) :
    ((obj members).all withinDigits = true →
      decode (Utf8.encode (chars style (.obj members))) = .ok (.obj members)) ∧
    ((obj members).all withinDigits = false →
      ∃ e, decode (Utf8.encode (chars style (.obj members))) = .error e) := by
  have htext : textOf (Utf8.encode (chars style (.obj members))) =
      .ok (chars style (.obj members)) := by
    obtain ⟨c, text, hchars, hgraphic⟩ := memberChars_close style members
    rw [chars, hchars]
    exact textOf_encode hgraphic text
  obtain ⟨hread, hrefuse⟩ := read_chars hstyle hfinite hkeys
  rw [decode, htext]
  constructor
  · intro hdigits
    simp only [hread hdigits]
  · intro hdigits
    obtain ⟨e, he⟩ := hrefuse hdigits
    simp only [he, Except.error.injEq, exists_eq']

/-- The bytes of an object. -/
def written (members : List (String × Json)) : Bytes :=
  Utf8.encode (chars wireStyle (.obj members))

theorem decode_written {members : List (String × Json)}
    (hkeys : (obj members).all distinctKeys = true) (hfinite : (obj members).allFinite = true)
    (hdigits : (obj members).all withinDigits = true) :
    decode (written members) = .ok (.obj members) :=
  (decode_standard wireStyle_standard hkeys hfinite).1 hdigits

theorem load_written [Platform] {members : List (String × Json)}
    (hkeys : (obj members).all distinctKeys = true) (hfinite : (obj members).allFinite = true)
    (hdigits : (obj members).all withinDigits = true)
    (hfault : Platform.readFault? (written members) = none) :
    load (written members) = .ok (.obj members) :=
  load_eq_ok_iff.mpr ⟨hfault, decode_written hkeys hfinite hdigits⟩

end Json

/-- The reader of the service takes a body off the bytes that it is decoded from, where these are
not nested too deep. -/
theorem readBody_of_decode [Platform] {bytes : Bytes} {v : Json} (hbytes : bytes.isEmpty = false)
    (hfault : Platform.readFault? bytes = none) (h : Json.decode bytes = .ok v) :
    Http.readBody bytes = .ok (v, true) := by
  rw [Http.readBody, hbytes, Json.load_eq_ok_iff.mpr ⟨hfault, h⟩]
  rfl

namespace OutboundResponse

theorem wire_of_body {r : OutboundResponse} {members : List (String × Json)}
    (hbody : r.body = some members) :
    r.wire.toList = Json.chars Json.wireStyle (.obj members) := by
  rw [wire, hbody]
  exact String.toList_ofList

/-- A body is sent as printable ASCII and read back as it was: every value of the same kind, the
keys of every object in the same order.  The keys of an object differ, doubles are finite, and
integers have no more digits than are read.  The service reads the body back unless it is nested too
deep for the platform. -/
theorem wire_read_back [Platform] (r : OutboundResponse) (members : List (String × Json))
    (hbody : r.body = some members) (hkeys : (Json.obj members).all Json.distinctKeys = true)
    (hfinite : (Json.obj members).allFinite = true)
    (hdigits : (Json.obj members).all Json.withinDigits = true) :
    (∀ b ∈ Utf8.encode r.wire.toList, 0x20 ≤ b.toNat ∧ b.toNat ≤ 0x7E) ∧
      Json.decode (Utf8.encode r.wire.toList) = .ok (.obj members) ∧
      (Platform.readFault? (Utf8.encode r.wire.toList) = none →
        Http.readBody (Utf8.encode r.wire.toList) = .ok (.obj members, true)) := by
  rw [wire_of_body hbody]
  have hdecode := (Json.decode_standard Json.wireStyle_standard hkeys hfinite).1 hdigits
  refine ⟨fun b hb => ?_, hdecode, fun hfault => readBody_of_decode rfl hfault hdecode⟩
  exact Utf8.mem_encode_of_isGraphic (Json.all_isGraphic_chars _ hfinite) hb

open scoped Platform in
/-- Nested values of every kind are sent and read back. -/
theorem wire_read_back_nested :
    let members : List (String × Json) :=
      [("score", .int 1), ("weight", .float ⟨0x3FB999999999999A⟩),
        ("é\n\"", .arr [.str "𝄞", .obj [("b", .bool true), ("a", .null)]])]
    (∀ b ∈ Utf8.encode (OutboundResponse.json 200 [] members).wire.toList,
      0x20 ≤ b.toNat ∧ b.toNat ≤ 0x7E) ∧
      Http.readBody (Utf8.encode (OutboundResponse.json 200 [] members).wire.toList) =
        .ok (.obj members, true) := by
  intro members
  have hread := wire_read_back (.json 200 [] members) members rfl (by decide) (by decide)
    (by decide)
  exact ⟨hread.1, hread.2.2 (by decide +kernel)⟩

/-- An integer with more digits than are read is not read back. -/
theorem wire_not_read_back :
    ¬ ∀ (r : OutboundResponse) (members : List (String × Json)), r.body = some members →
      (Json.obj members).all Json.distinctKeys = true → (Json.obj members).allFinite = true →
      (∀ b ∈ Utf8.encode r.wire.toList, 0x20 ≤ b.toNat ∧ b.toNat ≤ 0x7E) ∧
        Json.decode (Utf8.encode r.wire.toList) = .ok (.obj members) := by
  intro h
  have hdigits : Json.withinDigits (.int (10 ^ digitLimit)) = false := by
    have habs : Int.natAbs (10 ^ digitLimit) = 10 ^ digitLimit := by
      rw [Int.natAbs_pow]
      exact congrArg (· ^ digitLimit) (rfl : Int.natAbs 10 = 10)
    rw [Bool.eq_false_iff, ne_eq, Json.withinDigits_int_iff, habs]
    exact Nat.lt_irrefl (10 ^ digitLimit)
  have hlong : (Json.obj [("n", .int (10 ^ digitLimit))]).all Json.withinDigits = false := by
    simp only [Json.all, Json.allMembers, hdigits, Bool.false_and, Bool.and_false]
  have hread := (h (.json 200 [] [("n", .int (10 ^ digitLimit))]) _ rfl rfl rfl).2
  obtain ⟨e, he⟩ := (Json.decode_standard Json.wireStyle_standard rfl rfl).2 hlong
  rw [wire_of_body rfl, he] at hread
  cases hread

end OutboundResponse

end RegistryGateway
