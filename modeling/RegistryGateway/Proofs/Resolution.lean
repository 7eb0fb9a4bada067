import RegistryGateway.Proofs.Authority
import Mathlib.Data.List.TakeWhile

/-! The path of a URL.  A URL with a scheme and an authority is read apart from tabs and line
breaks: its authority ends before the first slash, question mark or hash, and its path starts there
and ends before the first question mark or hash.  A request without an explicit path is led to that
path. -/

namespace RegistryGateway

namespace Url

/-- The marks that end an authority. -/
def isMark (c : Char) : Bool := c = '/' || c = '?' || c = '#'

/-- The marks that end a path. -/
def endsPath (c : Char) : Bool := c = '?' || c = '#'

/-- A text without tabs and line breaks. -/
def stripped (text : List Char) : List Char := text.filter (!isDropped ·)

/-- The path that a text starts with. -/
def pathOf (text : List Char) : List Char := (cut endsPath text).1

/-- What follows the authority of a URL. -/
def remainder (text : List Char) : List Char := (takeAuthority (takeScheme (clean text)).2).2

/-- A letter and then letters, digits, plus signs, hyphens and points. -/
structure IsScheme (scheme : List Char) : Prop where
  first : ∃ c rest, scheme = c :: rest ∧ isAsciiLetter c = true
  all : ∀ c ∈ scheme, isSchemeChar c = true

theorem isScheme_http : IsScheme "http".toList :=
  ⟨⟨_, _, rfl, by decide⟩, List.all_eq_true.mp (by decide)⟩

theorem cut_head {test : Char → Bool} {text : List Char} {c : Char}
    (h : (cut test text).2.head? = some c) : test c = true := by
  have hnot := List.head?_dropWhile_not (!test ·) text
  rw [show List.dropWhile (!test ·) text = (cut test text).2 from rfl, h] at hnot
  simpa using hnot

theorem isDropped_of_isMark {c : Char} (h : isMark c = true) : isDropped c = false := by
  simp only [isMark, Bool.or_eq_true, decide_eq_true_eq] at h
  obtain (rfl | rfl) | rfl := h <;> decide

theorem isMark_stripped_iff (text : List Char) :
    (∀ c ∈ stripped text, isMark c = false) ↔ ∀ c ∈ text, isMark c = false := by
  constructor
  · intro h c hc
    cases hmark : isMark c with
    | false => rfl
    | true =>
      have hmem : c ∈ stripped text :=
        List.mem_filter.mpr ⟨hc, by simp [isDropped_of_isMark hmark]⟩
      exact absurd (h c hmem) (by simp [hmark])
  · intro h c hc
    exact h c (List.mem_of_mem_filter hc)

theorem isSchemeChar_toNat {c : Char} (h : isSchemeChar c = true) : 0x20 < c.toNat := by
  simp only [isSchemeChar, Bool.or_eq_true, decide_eq_true_eq] at h
  obtain (((hletter | hdigit) | rfl) | rfl) | rfl := h
  · simp only [isAsciiLetter, Bool.or_eq_true, Bool.and_eq_true, decide_eq_true_eq, Char.le_def,
      UInt32.le_iff_toNat_le] at hletter
    obtain ⟨h, -⟩ | ⟨h, -⟩ := hletter <;> exact Nat.lt_of_lt_of_le (by decide) h
  · unfold isDecimalDigit decimalDigit? at hdigit
    split at hdigit
    next hrange =>
      simp only [Char.le_def, UInt32.le_iff_toNat_le] at hrange
      exact Nat.lt_of_lt_of_le (by decide) hrange.1
    · cases hdigit
  · decide
  · decide
  · decide

theorem isSchemeChar_kept {c : Char} (h : isSchemeChar c = true) :
    isControlOrSpace c = false ∧ isDropped c = false ∧ c ≠ ':' := by
  have hlow := isSchemeChar_toNat h
  refine ⟨by simpa [isControlOrSpace] using hlow, ?_, ?_⟩
  · cases hdropped : isDropped c with
    | false => rfl
    | true =>
      simp only [isDropped, Bool.or_eq_true, decide_eq_true_eq] at hdropped
      obtain (rfl | rfl) | rfl := hdropped <;> exact absurd hlow (by decide)
  · rintro rfl
    exact absurd h (by decide)

/-- A mark in a text cuts it no further back than the text before it is cut. -/
theorem cut_append_cons {test : Char → Bool} {c : Char} (hc : test c = true)
    (before after : List Char) :
    cut test (before ++ c :: after) =
      ((cut test before).1, (cut test before).2 ++ c :: after) := by
  obtain ⟨hparts, hfirst⟩ := cut_parts test before
  have hhead : ∀ d, ((cut test before).2 ++ c :: after).head? = some d → test d = true := by
    intro d hd
    rw [List.head?_append] at hd
    cases hsecond : (cut test before).2.head? with
    | none =>
      rw [hsecond] at hd
      obtain rfl : c = d := by simpa using hd
      exact hc
    | some e =>
      rw [hsecond] at hd
      obtain rfl : e = d := by simpa using hd
      exact cut_head hsecond
  have happend : before ++ c :: after =
      (cut test before).1 ++ ((cut test before).2 ++ c :: after) := by
    rw [← List.append_assoc, hparts]
  rw [happend]
  exact cut_append hfirst hhead

theorem pathOf_append_of_clear {before : List Char} (h : ∀ c ∈ before, endsPath c = false)
    (after : List Char) : pathOf (before ++ after) = before ++ pathOf after := by
  have hall : ∀ c ∈ before, (!endsPath c) = true := fun c hc => by simp [h c hc]
  simp only [pathOf, cut, List.takeWhile_append_of_pos hall]

theorem pathOf_append_of_ended {before : List Char} {c : Char} (hc : c ∈ before)
    (hend : endsPath c = true) (after : List Char) : pathOf (before ++ after) = pathOf before := by
  obtain ⟨first, second, rfl⟩ := List.append_of_mem hc
  simp only [pathOf, List.append_assoc, List.cons_append, cut_append_cons hend]

/-- A path is cut at the first question mark of what comes before the first hash. -/
theorem cutAt_cutAt (text : List Char) : (cutAt '?' (cutAt '#' text).1).1 = pathOf text := by
  simp only [cutAt, pathOf, cut, List.takeWhile_takeWhile]
  congr 1
  funext c
  simp [endsPath]

theorem split_path {text : List Char} {parts : Parts} (h : split text = .ok parts) :
    parts.path = pathOf (remainder text) := by
  rw [← cutAt_cutAt]
  simp only [split] at h
  cases hbracket : bracketFault (takeAuthority (takeScheme (clean text)).2).1 with
  | some fault =>
    rw [hbracket] at h
    cases h
  | none =>
    rw [hbracket] at h
    cases hcompatible : compatibilityFault (takeAuthority (takeScheme (clean text)).2).1 with
    | some fault =>
      rw [hcompatible] at h
      cases h
    | none =>
      rw [hcompatible] at h
      cases h
      rfl

/-! ## Absolute URLs -/

section

variable {scheme : List Char} (h : IsScheme scheme) (rest : List Char)
include h

theorem clean_absolute :
    clean (scheme ++ "://".toList ++ rest) = scheme ++ "://".toList ++ stripped rest := by
  have hkept : scheme.filter (!isDropped ·) = scheme :=
    List.filter_eq_self.mpr fun c hc => by simp [(isSchemeChar_kept (h.all c hc)).2.1]
  obtain ⟨c, more, rfl, -⟩ := h.first
  have hfirst := (isSchemeChar_kept (h.all c (by simp))).1
  have hmarks : "://".toList.filter (!isDropped ·) = "://".toList := by decide
  have hstart : (c :: more ++ "://".toList ++ rest).dropWhile isControlOrSpace =
      c :: more ++ "://".toList ++ rest := by
    simp [hfirst]
  rw [clean, hstart, List.filter_append, List.filter_append, hkept, hmarks, stripped]

theorem takeScheme_absolute :
    takeScheme (scheme ++ "://".toList ++ rest) = (scheme, "//".toList ++ rest) := by
  have hbefore : ∀ c ∈ scheme, decide (c = ':') = false := by
    intro c hc
    simpa using (isSchemeChar_kept (h.all c hc)).2.2
  have hcut : cut (· = ':') (scheme ++ "://".toList ++ rest) =
      (scheme, "://".toList ++ rest) := by
    rw [List.append_assoc]
    exact cut_append hbefore (by simp)
  have hall : scheme.all isSchemeChar = true := List.all_eq_true.mpr h.all
  simp only [takeScheme, hcut]
  obtain ⟨c, more, rfl, hletter⟩ := h.first
  change (if (isAsciiLetter c && (c :: more).all isSchemeChar) = true then _ else _) = _
  rw [hletter, hall]
  rfl

theorem takeAuthority_absolute :
    takeAuthority (takeScheme (clean (scheme ++ "://".toList ++ rest))).2 =
      cut isMark (stripped rest) := by
  rw [clean_absolute h, takeScheme_absolute h]
  rfl

theorem authority_absolute :
    authority (scheme ++ "://".toList ++ rest) = (cut isMark (stripped rest)).1 := by
  rw [authority, takeAuthority_absolute h]

theorem remainder_absolute :
    remainder (scheme ++ "://".toList ++ rest) = (cut isMark (stripped rest)).2 := by
  rw [remainder, takeAuthority_absolute h]

end

end Url

namespace InboundRequest

open Url

/-- The text of a path, a slash if it is empty. -/
def pathText (path : List Char) : String := if path.isEmpty then "/" else String.ofList path

/-- What a URL that is read by itself is led to. -/
def routeOf (url : List Char) : Except UrlFault String :=
  (split url).map fun parts => pathText parts.path

theorem routeOf_eq_ok_iff (url : List Char) (path : String) :
    routeOf url = .ok path ↔
      (∀ fault, ¬AuthorityFault (authority url) fault) ∧
        path = pathText (pathOf (remainder url)) := by
  simp only [routeOf, ← split_error_iff]
  cases hsplit : split url with
  | error fault => simp [Except.map]
  | ok parts =>
    rw [← split_path hsplit]
    constructor
    · rintro ⟨⟩
      refine ⟨fun fault h => ?_, rfl⟩
      cases h
    · rintro ⟨-, rfl⟩
      rfl

/-- Without an explicit path, the URL decides. -/
theorem resolvePath_eq_routeOf {request : InboundRequest}
    (hpath : request.path = none ∨ request.path = some "") :
    request.resolvePath = routeOf request.absoluteUrl := by
  have hurl : request.resolvePath = resolvePath.fromUrl request := by
    obtain hpath | hpath := hpath <;> simp [resolvePath, hpath]
  rw [hurl, resolvePath.fromUrl, routeOf]
  cases split request.absoluteUrl <;> rfl

theorem resolvePath_eq_ok_iff {request : InboundRequest}
    (hpath : request.path = none ∨ request.path = some "") (path : String) :
    request.resolvePath = .ok path ↔
      (∀ fault, ¬AuthorityFault (authority request.absoluteUrl) fault) ∧
        path = pathText (pathOf (remainder request.absoluteUrl)) := by
  rw [resolvePath_eq_routeOf hpath, routeOf_eq_ok_iff]

end InboundRequest

end RegistryGateway
