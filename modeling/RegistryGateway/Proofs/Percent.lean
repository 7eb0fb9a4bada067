import RegistryGateway.Url.Percent

/-! What is behind the escapes of a text.  A text without escapes is read back as it is, also when
it was percent-encoded in between; a text with an escape is read back as a shorter one. -/

namespace RegistryGateway

theorem charOfCode_toNat (c : Char) : charOfCode c.toNat = c := by
  have hvalid : c.toNat.isValidChar := c.valid
  rw [charOfCode, if_pos hvalid, Char.ofNat_toNat]

namespace Utf8

theorem toNat_ofNat {n : Nat} (h : n < 0x100) : (UInt8.ofNat n).toNat = n := by
  rw [UInt8.toNat_ofNat']
  exact Nat.mod_eq_of_lt h

section

variable {a b c d : Nat} (rest : Bytes)

theorem next_one (ha : a < 0x80) : next (UInt8.ofNat a) rest = .char (charOfCode a) 1 := by
  simp [next, widthOf, toNat_ofNat (show a < 0x100 by omega), ha]

theorem next_two (ha : 0xC2 ≤ a ∧ a < 0xE0) (hb : 0x80 ≤ b ∧ b ≤ 0xBF) :
    next (UInt8.ofNat a) (UInt8.ofNat b :: rest) =
      .char (charOfCode ((a - 0xC0) * 0x40 + (b - 0x80))) 2 := by
  have hwidth : widthOf a = 2 := by
    rw [widthOf, if_neg (by omega), if_neg (by omega), if_pos ha.2]
  have hrange : secondRange a = (0x80, 0xBF) := by
    rw [secondRange, if_neg (by omega), if_neg (by omega), if_neg (by omega), if_neg (by omega)]
  simp [next, toNat_ofNat (show a < 0x100 by omega), toNat_ofNat (show b < 0x100 by omega), hwidth,
    hrange, hb]

theorem next_three (ha : 0xE0 ≤ a ∧ a < 0xF0)
    (hb : (secondRange a).1 ≤ b ∧ b ≤ (secondRange a).2 ∧ b < 0x100)
    (hc : 0x80 ≤ c ∧ c ≤ 0xBF) :
    next (UInt8.ofNat a) (UInt8.ofNat b :: UInt8.ofNat c :: rest) =
      .char (charOfCode ((a - 0xE0) * 0x1000 + (b - 0x80) * 0x40 + (c - 0x80))) 3 := by
  have hwidth : widthOf a = 3 := by
    rw [widthOf, if_neg (by omega), if_neg (by omega), if_neg (by omega), if_pos ha.2]
  simp [next, toNat_ofNat (show a < 0x100 by omega), toNat_ofNat hb.2.2,
    toNat_ofNat (show c < 0x100 by omega), hwidth, hb, isTail, hc]

theorem next_four (ha : 0xF0 ≤ a ∧ a < 0xF5)
    (hb : (secondRange a).1 ≤ b ∧ b ≤ (secondRange a).2 ∧ b < 0x100)
    (hc : 0x80 ≤ c ∧ c ≤ 0xBF) (hd : 0x80 ≤ d ∧ d ≤ 0xBF) :
    next (UInt8.ofNat a) (UInt8.ofNat b :: UInt8.ofNat c :: UInt8.ofNat d :: rest) =
      .char (charOfCode
        ((a - 0xF0) * 0x40000 + (b - 0x80) * 0x1000 + (c - 0x80) * 0x40 + (d - 0x80))) 4 := by
  have hwidth : widthOf a = 4 := by
    rw [widthOf, if_neg (by omega), if_neg (by omega), if_neg (by omega), if_neg (by omega),
      if_pos ha.2]
  simp [next, toNat_ofNat (show a < 0x100 by omega), toNat_ofNat hb.2.2,
    toNat_ofNat (show c < 0x100 by omega), toNat_ofNat (show d < 0x100 by omega), hwidth, hb,
    isTail, hc, hd]

end

theorem secondRange_mem {a b : Nat} (hb : 0x80 ≤ b ∧ b ≤ 0xBF) (hE0 : a = 0xE0 → 0xA0 ≤ b)
    (hED : a = 0xED → b ≤ 0x9F) (hF0 : a = 0xF0 → 0x90 ≤ b) (hF4 : a = 0xF4 → b ≤ 0x8F) :
    (secondRange a).1 ≤ b ∧ b ≤ (secondRange a).2 ∧ b < 0x100 := by
  unfold secondRange
  split <;> (try split) <;> (try split) <;> (try split) <;> simp only [] <;> omega

/-- The bytes of a character start with one that continues no other character, and are taken off the
front of any bytes that start with them. -/
theorem next_encodeChar (c : Char) (rest : Bytes) :
    ∃ lead tail, encodeChar c = lead :: tail ∧ isTail lead.toNat = false ∧
      next lead (tail ++ rest) = .char c (tail.length + 1) := by
  have hvalid : c.toNat < 0xD800 ∨ 0xDFFF < c.toNat ∧ c.toNat < 0x110000 := c.valid
  have hcode := charOfCode_toNat c
  have hlead {a : Nat} (h : a < 0x80 ∨ 0xC0 ≤ a ∧ a < 0x100) :
      isTail (UInt8.ofNat a).toNat = false := by
    rw [toNat_ofNat (by omega)]
    simp only [isTail, Bool.and_eq_false_iff, decide_eq_false_iff_not]
    omega
  unfold encodeChar
  generalize c.toNat = n at hvalid hcode
  subst hcode
  by_cases h1 : n < 0x80
  · exact ⟨_, _, if_pos h1, hlead (by omega), next_one _ h1⟩
  by_cases h2 : n < 0x800
  · refine ⟨_, _, (if_neg h1).trans (if_pos h2), hlead (by omega), ?_⟩
    have hvalue : (0xC0 + n / 0x40 - 0xC0) * 0x40 + (0x80 + n % 0x40 - 0x80) = n := by omega
    exact (next_two _ (by omega) (by omega)).trans (by rw [hvalue]; rfl)
  by_cases h3 : n < 0x10000
  · refine ⟨_, _, (if_neg h1).trans <| (if_neg h2).trans (if_pos h3), hlead (by omega), ?_⟩
    have hvalue : (0xE0 + n / 0x1000 - 0xE0) * 0x1000 + (0x80 + n / 0x40 % 0x40 - 0x80) * 0x40 +
        (0x80 + n % 0x40 - 0x80) = n := by omega
    have hsecond := secondRange_mem (a := 0xE0 + n / 0x1000) (b := 0x80 + n / 0x40 % 0x40)
      (by omega) (by omega) (by omega) (by omega) (by omega)
    exact (next_three _ (by omega) hsecond (by omega)).trans (by rw [hvalue]; rfl)
  · refine ⟨_, _, (if_neg h1).trans <| (if_neg h2).trans (if_neg h3), hlead (by omega), ?_⟩
    have hvalue : (0xF0 + n / 0x40000 - 0xF0) * 0x40000 +
        (0x80 + n / 0x1000 % 0x40 - 0x80) * 0x1000 + (0x80 + n / 0x40 % 0x40 - 0x80) * 0x40 +
        (0x80 + n % 0x40 - 0x80) = n := by omega
    have hsecond := secondRange_mem (a := 0xF0 + n / 0x40000) (b := 0x80 + n / 0x1000 % 0x40)
      (by omega) (by omega) (by omega) (by omega) (by omega)
    exact (next_four _ (by omega) hsecond (by omega) (by omega)).trans (by rw [hvalue]; rfl)

theorem secondRange_tail (a : Nat) : 0x80 ≤ (secondRange a).1 ∧ (secondRange a).2 ≤ 0xBF := by
  unfold secondRange
  split <;> (try split) <;> (try split) <;> (try split) <;> simp

/-- Any bytes have a front, which takes continuation bytes alone after the first byte. -/
theorem next_cases (lead : UInt8) (rest : Bytes) :
    ∃ k ≤ rest.length, (∀ b ∈ rest.take k, isTail b.toNat = true) ∧
      ((∃ c, next lead rest = .char c (k + 1)) ∨ next lead rest = .badStart ∧ k = 0 ∨
        next lead rest = .badContinuation (k + 1) ∨ next lead rest = .cutShort (k + 1)) := by
  obtain ⟨hlow, hhigh⟩ := secondRange_tail lead.toNat
  unfold next
  by_cases hzero : widthOf lead.toNat = 0
  · exact ⟨0, by simp, by simp, by simp [hzero]⟩
  by_cases hone : widthOf lead.toNat = 1
  · exact ⟨0, by simp, by simp, by simp [hone]⟩
  match rest with
  | [] => exact ⟨0, by simp, by simp, by simp [hzero, hone]⟩
  | second :: rest =>
    by_cases hsecond : (secondRange lead.toNat).1 ≤ second.toNat ∧
        second.toNat ≤ (secondRange lead.toNat).2
    · have htail : isTail second.toNat = true := by simp [isTail]; omega
      by_cases htwo : widthOf lead.toNat = 2
      · exact ⟨1, by simp, by simp [htail], by simp [htwo, hsecond]⟩
      match rest with
      | [] => exact ⟨1, by simp, by simp [htail], by simp [hzero, hone, htwo, hsecond]⟩
      | third :: rest =>
        by_cases hthird : isTail third.toNat = true
        · by_cases hthree : widthOf lead.toNat = 3
          · exact ⟨2, by simp, by simp [htail, hthird], by simp [hthree, hsecond, hthird]⟩
          match rest with
          | [] =>
            exact ⟨2, by simp, by simp [htail, hthird],
              by simp [hzero, hone, htwo, hthree, hsecond, hthird]⟩
          | fourth :: rest =>
            by_cases hfourth : isTail fourth.toNat = true
            · exact ⟨3, by simp, by simp [htail, hthird, hfourth],
                by simp [hzero, hone, htwo, hthree, hsecond, hthird, hfourth]⟩
            · exact ⟨2, by simp, by simp [htail, hthird],
                by simp [hzero, hone, htwo, hthree, hsecond, hthird, hfourth]⟩
        · exact ⟨1, by simp, by simp [htail], by simp [hzero, hone, htwo, hsecond, hthird]⟩
    · exact ⟨0, by simp, by simp, by simp [hzero, hone, hsecond]⟩

/-- What is read from a front, and how many bytes are taken after its first. -/
theorem decodeLenientFrom_cons (lead : UInt8) (rest : Bytes) :
    ∃ c k, k ≤ rest.length ∧ (∀ b ∈ rest.take k, isTail b.toNat = true) ∧
      ∀ fuel, decodeLenientFrom (fuel + 1) (lead :: rest) =
        c :: decodeLenientFrom fuel (rest.drop k) := by
  obtain ⟨k, hk, htails, ⟨c, h⟩ | ⟨h, rfl⟩ | h | h⟩ := next_cases lead rest
  · exact ⟨c, k, hk, htails, fun fuel => by simp [decodeLenientFrom, h]⟩
  all_goals exact ⟨'\uFFFD', _, hk, htails, fun fuel => by simp [decodeLenientFrom, h]⟩

theorem decodeLenientFrom_of_le {fuel : Nat} {bytes : Bytes} (h : bytes.length ≤ fuel) :
    decodeLenientFrom fuel bytes = decodeLenient bytes := by
  induction fuel using Nat.strongRecOn generalizing bytes with
  | ind fuel ih =>
    match bytes, fuel with
    | [], 0 => rfl
    | [], _ + 1 => rfl
    | lead :: rest, fuel + 1 =>
      obtain ⟨c, k, hk, -, hcons⟩ := decodeLenientFrom_cons lead rest
      have hlength : (rest.drop k).length ≤ rest.length := by simp
      simp only [List.length_cons, Nat.add_le_add_iff_right] at h
      rw [decodeLenient, List.length_cons, hcons, hcons, ih fuel (by omega) (by omega)]
      by_cases hrest : rest.length = fuel
      · rw [hrest, ih fuel (by omega) (by omega)]
      · rw [ih rest.length (by omega) (by omega)]

/-- The first character that is read takes continuation bytes alone after the first byte. -/
theorem decodeLenient_cons (lead : UInt8) (rest : Bytes) :
    ∃ c k, (∀ b ∈ rest.take k, isTail b.toNat = true) ∧
      decodeLenient (lead :: rest) = c :: decodeLenient (rest.drop k) := by
  obtain ⟨c, k, -, htails, hcons⟩ := decodeLenientFrom_cons lead rest
  refine ⟨c, k, htails, ?_⟩
  rw [decodeLenient, List.length_cons, hcons, decodeLenientFrom_of_le (by simp)]

theorem decodeLenient_encodeChar (c : Char) (rest : Bytes) :
    decodeLenient (encodeChar c ++ rest) = c :: decodeLenient rest := by
  obtain ⟨lead, tail, hencode, -, hnext⟩ := next_encodeChar c rest
  rw [hencode, List.cons_append, decodeLenient, List.length_cons, decodeLenientFrom]
  simp only [hnext, List.drop_succ_cons, List.drop_left]
  rw [decodeLenientFrom_of_le (by simp)]

end Utf8

namespace Url

/-- Whether a text starts with two hexadecimal digits. -/
def startsHex : List Char → Bool
  | high :: low :: _ => isHexDigit high && isHexDigit low
  | _ => false

/-- Whether a percent sign with two hexadecimal digits stands somewhere in a text. -/
def hasEscape : List Char → Bool
  | [] => false
  | c :: rest => c == '%' && startsHex rest || hasEscape rest

theorem startsHex_cons (c : Char) (rest : List Char) :
    startsHex (c :: rest) = (isHexDigit c && rest.head?.any isHexDigit) := by
  cases rest <;> simp [startsHex]

theorem percentBytes_char {c : Char} {rest : List Char} (h : c = '%' → startsHex rest = false) :
    percentBytes (c :: rest) = Utf8.encodeChar c ++ percentBytes rest := by
  rw [percentBytes.eq_def (c :: rest)]
  split
  · next heq => cases heq
  · next high low rest heq =>
    obtain ⟨rfl, rfl⟩ := List.cons.inj heq
    have hhex := h rfl
    simp only [startsHex, isHexDigit] at hhex
    split
    · next hhigh hlow => simp [hhigh, hlow] at hhex
    · rfl
  · next heq => obtain ⟨rfl, rfl⟩ := List.cons.inj heq; rfl

theorem percentBytes_escape {high low : Char} {rest : List Char}
    (h : startsHex (high :: low :: rest) = true) :
    ∃ b, ∀ rest, percentBytes ('%' :: high :: low :: rest) = b :: percentBytes rest := by
  simp only [startsHex, isHexDigit, Bool.and_eq_true, Option.isSome_iff_exists] at h
  obtain ⟨⟨a, ha⟩, b, hb⟩ := h
  exact ⟨UInt8.ofNat (a * 16 + b), by simp [percentBytes, ha, hb]⟩

/-- A text is empty, or starts with an escape, or with a character that stands for itself. -/
theorem percent_cases (text : List Char) :
    text = [] ∨
      (∃ high low rest, text = '%' :: high :: low :: rest ∧
        startsHex (high :: low :: rest) = true) ∨
      ∃ c rest, text = c :: rest ∧ (c = '%' → startsHex rest = false) := by
  match text with
  | [] => exact .inl rfl
  | c :: rest =>
    by_cases h : c = '%' → startsHex rest = false
    · exact .inr (.inr ⟨c, rest, rfl, h⟩)
    · simp only [Classical.not_imp, Bool.not_eq_false] at h
      obtain ⟨rfl, hhex⟩ := h
      match rest with
      | [] => cases hhex
      | [_] => cases hhex
      | high :: low :: rest => exact .inr (.inl ⟨high, low, rest, rfl, hhex⟩)

/-- A continuation byte at the front of the bytes of a text is an escape. -/
theorem percentBytes_drop {text : List Char} {k : Nat}
    (h : ∀ b ∈ (percentBytes text).take k, Utf8.isTail b.toNat = true) :
    ∃ rest, rest.length ≤ text.length ∧ (percentBytes text).drop k = percentBytes rest := by
  induction k generalizing text with
  | zero => exact ⟨text, Nat.le_refl _, rfl⟩
  | succ k ih =>
    obtain rfl | ⟨high, low, rest, rfl, hhex⟩ | ⟨c, rest, rfl, hc⟩ := percent_cases text
    · exact ⟨[], Nat.le_refl _, rfl⟩
    · obtain ⟨b, hb⟩ := percentBytes_escape hhex
      rw [hb, List.take_succ_cons] at h
      obtain ⟨more, hlength, hdrop⟩ := ih fun b hb => h b (List.mem_cons_of_mem _ hb)
      refine ⟨more, ?_, by rw [hb, List.drop_succ_cons, hdrop]⟩
      simp only [List.length_cons]
      omega
    · obtain ⟨lead, tail, hencode, hlead, -⟩ := Utf8.next_encodeChar c []
      rw [percentBytes_char hc, hencode, List.cons_append, List.take_succ_cons] at h
      rw [h lead List.mem_cons_self] at hlead
      cases hlead

theorem percentDecode_char {c : Char} {rest : List Char} (h : c = '%' → startsHex rest = false) :
    percentDecode (c :: rest) = c :: percentDecode rest := by
  rw [percentDecode, percentBytes_char h, Utf8.decodeLenient_encodeChar]
  rfl

theorem percentDecode_escape {high low : Char} {rest : List Char}
    (h : startsHex (high :: low :: rest) = true) :
    ∃ c more, more.length ≤ rest.length ∧
      percentDecode ('%' :: high :: low :: rest) = c :: percentDecode more := by
  obtain ⟨b, hb⟩ := percentBytes_escape h
  obtain ⟨c, k, htails, hcons⟩ := Utf8.decodeLenient_cons b (percentBytes rest)
  obtain ⟨more, hlength, hdrop⟩ := percentBytes_drop htails
  exact ⟨c, more, hlength, by rw [percentDecode, hb, hcons, hdrop]; rfl⟩

/-- A text without escapes stands for itself. -/
theorem percentDecode_of_not_hasEscape {text : List Char} (h : hasEscape text = false) :
    percentDecode text = text := by
  induction text with
  | nil => rfl
  | cons c rest ih =>
    simp only [hasEscape, Bool.or_eq_false_iff, Bool.and_eq_false_iff, beq_eq_false_iff_ne] at h
    rw [percentDecode_char fun hc => h.1.resolve_left (· hc), ih h.2]

/-- What a text stands for is no longer than the text, and shorter when there is an escape. -/
theorem length_percentDecode (text : List Char) :
    (percentDecode text).length + (if hasEscape text then 1 else 0) ≤ text.length := by
  induction h : text.length using Nat.strongRecOn generalizing text with
  | ind n ih =>
    subst h
    obtain rfl | ⟨high, low, rest, rfl, hhex⟩ | ⟨c, rest, rfl, hc⟩ := percent_cases text
    · exact Nat.le_refl _
    · obtain ⟨c, more, hlength, hcons⟩ := percentDecode_escape hhex
      have hmore := ih more.length (by simp only [List.length_cons]; omega) more rfl
      rw [hcons]
      simp only [List.length_cons]
      split <;> omega
    · have hrest := ih rest.length (by simp) rest rfl
      have hsame : hasEscape (c :: rest) = hasEscape rest := by
        by_cases hpercent : c = '%'
        · simp [hasEscape, hc hpercent]
        · simp [hasEscape, hpercent]
      rw [percentDecode_char hc, hsame]
      simp only [List.length_cons]
      omega

theorem hasEscape_eq_false_of_length {text : List Char}
    (h : text.length ≤ (percentDecode text).length) : hasEscape text = false := by
  have hlength := length_percentDecode text
  by_cases hescape : hasEscape text = true
  · rw [if_pos hescape] at hlength
    omega
  · exact Bool.eq_false_iff.mpr hescape

/-! ## Texts with escapes added -/

/-- A part of a URL in which escapes stand as they are. -/
structure KeepsEscapes (keep : Char → Bool) : Prop where
  percent : keep '%' = true
  digit : ∀ c, isHexDigit c = true → keep c = true

/-- What holds of the characters below 0x80 holds of each. -/
theorem of_toNat_lt {p : Char → Prop} (hall : ∀ n < 0x80, p (Char.ofNat n)) {c : Char}
    (h : c.toNat < 0x80) : p c := by
  have hc := hall c.toNat h
  rwa [Char.ofNat_toNat] at hc

theorem toNat_lt_of_isHexDigit {c : Char} (h : isHexDigit c = true) : c.toNat < 0x80 := by
  have hle {d : Char} (hd : c ≤ d) : c.toNat ≤ d.toNat := hd
  unfold isHexDigit hexDigit? at h
  split at h
  · next hc => exact Nat.lt_of_le_of_lt (hle hc.2) (by decide)
  · split at h
    · next hc => exact Nat.lt_of_le_of_lt (hle hc.2) (by decide)
    · split at h
      · next hc => exact Nat.lt_of_le_of_lt (hle hc.2) (by decide)
      · cases h

theorem keptInPath_keepsEscapes : KeepsEscapes keptInPath where
  percent := by decide
  digit c hc :=
    of_toNat_lt (p := fun c => isHexDigit c = true → keptInPath c = true) (by decide)
      (toNat_lt_of_isHexDigit hc) hc

theorem upperHexChar_digit {n : Nat} (h : n < 16) : hexDigit? (upperHexChar n) = some n := by
  have hall : ∀ n < 16, hexDigit? (upperHexChar n) = some n := by decide
  exact hall n h

theorem percentBytes_percentByte (b : UInt8) (rest : List Char) :
    percentBytes (percentByte b ++ rest) = b :: percentBytes rest := by
  have hb : b.toNat < 256 := b.toNat_lt
  have hvalue : b.toNat / 16 * 16 + b.toNat % 16 = b.toNat := by omega
  simp only [percentByte, List.cons_append, List.nil_append, percentBytes,
    upperHexChar_digit (show b.toNat / 16 < 16 by omega),
    upperHexChar_digit (show b.toNat % 16 < 16 by omega), hvalue, UInt8.ofNat_toNat]

theorem percentBytes_percentChar (c : Char) (rest : List Char) :
    percentBytes (percentChar c ++ rest) = Utf8.encodeChar c ++ percentBytes rest := by
  unfold percentChar
  induction Utf8.encodeChar c with
  | nil => rfl
  | cons b more ih =>
    rw [List.flatMap_cons, List.append_assoc, percentBytes_percentByte, ih, List.cons_append]

/-- Escapes are made of percent signs and hexadecimal digits. -/
theorem mem_percentChar {c d : Char} (h : d ∈ percentChar c) : d = '%' ∨ isHexDigit d = true := by
  obtain ⟨b, -, hd⟩ := List.mem_flatMap.mp h
  have hb : b.toNat < 256 := b.toNat_lt
  simp only [percentByte, List.mem_cons, List.not_mem_nil, or_false] at hd
  obtain rfl | rfl | rfl := hd
  · exact .inl rfl
  · exact .inr (by rw [isHexDigit, upperHexChar_digit (by omega)]; rfl)
  · exact .inr (by rw [isHexDigit, upperHexChar_digit (by omega)]; rfl)

theorem percentChar_head (c : Char) : ∃ more, percentChar c = '%' :: more := by
  obtain ⟨lead, tail, hencode, -⟩ := Utf8.next_encodeChar c []
  exact ⟨_, by rw [percentChar, hencode, List.flatMap_cons, percentByte, List.cons_append]⟩

theorem percentEncode_cons (keep : Char → Bool) (c : Char) (rest : List Char) :
    percentEncode keep (c :: rest) =
      (if keep c then [c] else percentChar c) ++ percentEncode keep rest := rfl

theorem percentEncode_append (keep : Char → Bool) (first second : List Char) :
    percentEncode keep (first ++ second) =
      percentEncode keep first ++ percentEncode keep second := by
  simp [percentEncode]

theorem percentEncode_of_kept {keep : Char → Bool} {text : List Char}
    (h : ∀ c ∈ text, keep c = true) : percentEncode keep text = text := by
  induction text with
  | nil => rfl
  | cons c rest ih =>
    rw [List.forall_mem_cons] at h
    have hrest := ih h.2
    simp only [percentEncode, List.flatMap_cons, h.1, if_true, List.singleton_append] at hrest ⊢
    rw [hrest]

section

variable {keep : Char → Bool} (hkeep : KeepsEscapes keep)

include hkeep

theorem KeepsEscapes.of_mem_percentEncode {c : Char} {text : List Char}
    (h : c ∈ percentEncode keep text) : keep c = true := by
  obtain ⟨d, -, hc⟩ := List.mem_flatMap.mp h
  split at hc
  · next hd => rwa [List.mem_singleton.mp hc]
  · obtain rfl | hhex := mem_percentChar hc
    · exact hkeep.percent
    · exact hkeep.digit c hhex

theorem KeepsEscapes.head?_percentEncode (text : List Char) :
    (percentEncode keep text).head?.any isHexDigit = text.head?.any isHexDigit := by
  cases text with
  | nil => rfl
  | cons c rest =>
    rw [percentEncode_cons]
    by_cases hc : keep c = true
    · simp [hc]
    · obtain ⟨more, hmore⟩ := percentChar_head c
      have hdigit : isHexDigit c = false := Bool.eq_false_iff.mpr fun h => hc (hkeep.digit c h)
      have hpercent : isHexDigit '%' = false := by decide
      simp [hc, hmore, hdigit, hpercent]

theorem KeepsEscapes.startsHex_percentEncode (text : List Char) :
    startsHex (percentEncode keep text) = startsHex text := by
  cases text with
  | nil => rfl
  | cons c rest =>
    rw [percentEncode_cons]
    by_cases hc : keep c = true
    · rw [if_pos hc, List.singleton_append, startsHex_cons, startsHex_cons,
        hkeep.head?_percentEncode]
    · obtain ⟨more, hmore⟩ := percentChar_head c
      have hdigit : isHexDigit c = false := Bool.eq_false_iff.mpr fun h => hc (hkeep.digit c h)
      have hpercent : isHexDigit '%' = false := by decide
      rw [if_neg hc, hmore, List.cons_append, startsHex_cons, startsHex_cons, hdigit, hpercent]
      rfl

theorem KeepsEscapes.percentBytes_percentEncode (text : List Char) :
    percentBytes (percentEncode keep text) = percentBytes text := by
  induction h : text.length using Nat.strongRecOn generalizing text with
  | ind n ih =>
    subst h
    obtain rfl | ⟨high, low, rest, rfl, hhex⟩ | ⟨c, rest, rfl, hc⟩ := percent_cases text
    · rfl
    · have hrest := ih rest.length (by simp only [List.length_cons]; omega) rest rfl
      obtain ⟨b, hb⟩ := percentBytes_escape hhex
      simp only [startsHex, Bool.and_eq_true] at hhex
      simp only [percentEncode_cons, hkeep.percent, hkeep.digit _ hhex.1, hkeep.digit _ hhex.2,
        if_true, List.singleton_append, hb, hrest]
    · have hrest := ih rest.length (by simp) rest rfl
      rw [percentEncode_cons, percentBytes_char hc, ← hrest]
      by_cases hkept : keep c = true
      · rw [if_pos hkept, List.singleton_append, percentBytes_char]
        exact fun hpercent => (hkeep.startsHex_percentEncode rest).trans (hc hpercent)
      · rw [if_neg hkept, percentBytes_percentChar]

theorem KeepsEscapes.percentDecode_percentEncode (text : List Char) :
    percentDecode (percentEncode keep text) = percentDecode text := by
  rw [percentDecode, hkeep.percentBytes_percentEncode, percentDecode]

end

end Url

end RegistryGateway
