import RegistryGateway.Proofs.Authority
import RegistryGateway.Proofs.Path
import RegistryGateway.Url.Form

/-! Form encoding loses nothing.  An encoded text is made of unreserved characters, plus signs and
escapes, so the marks between names and values and between pairs stand nowhere else, and a query
keeps the whole as it is. -/

namespace RegistryGateway

theorem Utf8.decodeLenient_encode (text : List Char) : decodeLenient (encode text) = text := by
  induction text with
  | nil => rfl
  | cons c rest ih =>
    rw [encode, List.flatMap_cons, decodeLenient_encodeChar]
    exact congrArg (c :: ·) ih

namespace Url

/-! ## What an encoded text is made of -/

theorem toNat_lt_of_isUnreserved {c : Char} (h : isUnreserved c = true) : c.toNat < 0x80 := by
  have hbelow {d : Char} (hd : d.toNat < 0x80) (hc : c ≤ d) : c.toNat < 0x80 :=
    Nat.lt_of_le_of_lt hc hd
  have hmarks : "-._~".toList.all (·.toNat < 0x80) = true := by decide
  simp only [isUnreserved, Bool.or_eq_true, Bool.and_eq_true, decide_eq_true_eq,
    List.contains_iff_mem] at h
  obtain ((hsmall | hcapital) | hdigit) | hmark := h
  · exact hbelow (by decide) hsmall.2
  · exact hbelow (by decide) hcapital.2
  · unfold isDecimalDigit decimalDigit? at hdigit
    split at hdigit
    next hrange => exact hbelow (by decide) hrange.2
    · cases hdigit
  · exact of_decide_eq_true (List.all_eq_true.mp hmarks c hmark)

theorem isUnreserved_of_isHexDigit {c : Char} (h : isHexDigit c = true) : isUnreserved c = true :=
  of_toNat_lt (p := fun c => isHexDigit c = true → isUnreserved c = true) (by decide)
    (toNat_lt_of_isHexDigit h) h

theorem keptInQuery_of_isUnreserved {c : Char} (h : isUnreserved c = true) :
    keptInQuery c = true :=
  of_toNat_lt (p := fun c => isUnreserved c = true → keptInQuery c = true) (by decide)
    (toNat_lt_of_isUnreserved h) h

theorem mem_formText {text : List Char} {c : Char} (h : c ∈ formText text) :
    c = '+' ∨ c = '%' ∨ isUnreserved c = true := by
  obtain ⟨d, -, hc⟩ := List.mem_flatMap.mp h
  rw [formChar] at hc
  split at hc
  · exact .inl (List.mem_singleton.mp hc)
  split at hc
  next hd =>
    rw [List.mem_singleton.mp hc]
    exact .inr (.inr hd)
  · obtain hpercent | hhex := mem_percentChar hc
    · exact .inr (.inl hpercent)
    · exact .inr (.inr (isUnreserved_of_isHexDigit hhex))

/-- No mark of a form stands in an encoded text. -/
theorem not_mem_formText {mark : Char} (hmark : mark = '&' ∨ mark = '=') (text : List Char) :
    mark ∉ formText text := by
  intro h
  obtain rfl | rfl := hmark
  · obtain h | h | h := mem_formText h <;> exact absurd h (by decide)
  · obtain h | h | h := mem_formText h <;> exact absurd h (by decide)

theorem keptInQuery_formText {text : List Char} {c : Char} (h : c ∈ formText text) :
    keptInQuery c = true := by
  obtain rfl | rfl | h := mem_formText h
  · decide
  · decide
  · exact keptInQuery_of_isUnreserved h

theorem keptInQuery_formPair {pair : List Char × List Char} {c : Char} (h : c ∈ formPair pair) :
    keptInQuery c = true := by
  obtain h | h := List.mem_append.mp h
  · exact keptInQuery_formText h
  · obtain rfl | h := List.mem_cons.mp h
    · decide
    · exact keptInQuery_formText h

/-- A query keeps a form as it is. -/
theorem percentEncode_formEncode (pairs : List (List Char × List Char)) :
    percentEncode keptInQuery (formEncode pairs) = formEncode pairs := by
  refine percentEncode_of_kept fun c hc => ?_
  obtain hc | ⟨piece, hpiece, hc⟩ := mem_joinChars hc
  · rw [List.mem_singleton.mp hc]
    decide
  · obtain ⟨pair, -, rfl⟩ := List.mem_map.mp hpiece
    exact keptInQuery_formPair hc

/-! ## Decoding -/

/-- A text with its plus signs read as spaces. -/
def spaced (text : List Char) : List Char := text.map fun c => if c = '+' then ' ' else c

theorem spaced_of_not_mem {text : List Char} (h : '+' ∉ text) : spaced text = text := by
  refine (List.map_congr_left fun c hc => ?_).trans (List.map_id text)
  refine if_neg fun (he : c = '+') => ?_
  subst he
  exact h hc

theorem spaced_percentChar (c : Char) : spaced (percentChar c) = percentChar c := by
  refine spaced_of_not_mem fun h => ?_
  obtain h | h := mem_percentChar h <;> exact absurd h (by decide)

theorem percentBytes_formChar (c : Char) (rest : List Char) :
    percentBytes (spaced (formChar c) ++ rest) = Utf8.encodeChar c ++ percentBytes rest := by
  rw [formChar]
  split
  next hspace =>
    subst hspace
    exact percentBytes_char (c := ' ') nofun
  split
  next hunreserved =>
    have hplus : '+' ∉ [c] := fun h => by
      rw [← List.mem_singleton.mp h] at hunreserved
      exact absurd hunreserved (by decide)
    rw [spaced_of_not_mem hplus, List.singleton_append]
    refine percentBytes_char fun hpercent => ?_
    rw [hpercent] at hunreserved
    exact absurd hunreserved (by decide)
  · rw [spaced_percentChar, percentBytes_percentChar]

theorem percentBytes_formText (text : List Char) :
    percentBytes (spaced (formText text)) = Utf8.encode text := by
  induction text with
  | nil => rfl
  | cons c rest ih =>
    have hcons : spaced (formText (c :: rest)) = spaced (formChar c) ++ spaced (formText rest) := by
      rw [formText, List.flatMap_cons, spaced, List.map_append]
      rfl
    rw [hcons, percentBytes_formChar, ih]
    rfl

theorem formTextDecode_formText (text : List Char) : formTextDecode (formText text) = text := by
  have hbytes : percentBytes ((formText text).map fun c => if c = '+' then ' ' else c) =
      Utf8.encode text := percentBytes_formText text
  rw [formTextDecode, percentDecode, hbytes, Utf8.decodeLenient_encode]

theorem cutAt_formPair (pair : List Char × List Char) :
    cutAt '=' (formPair pair) = (formText pair.1, formText pair.2) :=
  cutAt_append (not_mem_formText (.inr rfl) pair.1) _

theorem not_mem_formPair (pair : List Char × List Char) : '&' ∉ formPair pair := by
  simp [formPair, not_mem_formText]

theorem formEncode_ne_nil {pairs : List (List Char × List Char)} (h : pairs ≠ []) :
    formEncode pairs ≠ [] := by
  obtain ⟨pair, rest, rfl⟩ := List.exists_cons_of_ne_nil h
  refine List.ne_nil_of_mem (a := '=') (mem_joinChars_of_mem _ List.mem_cons_self ?_)
  exact List.mem_append_right _ List.mem_cons_self

/-- The pairs of a form are the pairs that it was made of. -/
theorem formDecode_formEncode (pairs : List (List Char × List Char)) :
    formDecode (formEncode pairs) = pairs := by
  by_cases hpairs : pairs = []
  · subst hpairs
    rfl
  · have hpieces : splitOn '&' (formEncode pairs) = pairs.map formPair := by
      refine splitOn_joinChars (by simpa using hpairs) fun piece hpiece => ?_
      obtain ⟨pair, -, rfl⟩ := List.mem_map.mp hpiece
      exact not_mem_formPair pair
    have hne : (formEncode pairs).isEmpty = false := by simpa using formEncode_ne_nil hpairs
    rw [formDecode, hne, hpieces, List.map_map]
    refine (List.map_congr_left fun pair _ => ?_).trans (List.map_id pairs)
    simp [cutAt_formPair, formTextDecode_formText]

end Url

end RegistryGateway
