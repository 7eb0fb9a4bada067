import RegistryGateway.Timestamp
import Mathlib.Data.List.Forall2
import Mathlib.Data.Nat.Digits.Defs

/-! The text of a point in time.  Each part of a date and time of the calendar fits in the digits
that its text has for it, so the text has one form. -/

namespace RegistryGateway

/-- A decimal digit of core is one of the decimal digits. -/
theorem isDecimalDigit_of_isDigit {c : Char} (h : c.isDigit = true) : isDecimalDigit c = true := by
  simp only [Char.isDigit, Bool.and_eq_true, decide_eq_true_eq] at h
  have hrange : '0' ≤ c ∧ c ≤ '9' := h
  simp [isDecimalDigit, decimalDigit?, hrange]

/-- A number is padded to a width that it fits in. -/
theorem length_decimalPadded {width n : Nat} (hwidth : 0 < width) (h : n < 10 ^ width) :
    (decimalPadded width n).length = width := by
  have hdigits : (Nat.toDigits 10 n).length ≤ width :=
    (Nat.length_toDigits_le_iff (by decide) hwidth).mpr h
  simp only [decimalPadded, Nat.toString_eq_ofList_toDigits, String.toList_ofList,
    List.length_append, List.length_replicate]
  omega

theorem isDecimalDigit_of_mem_decimalPadded {width n : Nat} {c : Char}
    (h : c ∈ decimalPadded width n) : isDecimalDigit c = true := by
  simp only [decimalPadded, Nat.toString_eq_ofList_toDigits, String.toList_ofList,
    List.mem_append] at h
  rcases h with hzero | hdigit
  · obtain rfl := List.eq_of_mem_replicate hzero
    decide
  · exact isDecimalDigit_of_isDigit (Nat.isDigit_of_mem_toDigits (by decide) (by decide) hdigit)

namespace Timestamp

/-- The parts of a date and time of the calendar, in a year of four digits. -/
structure InCalendar (t : Timestamp) : Prop where
  year : 1000 ≤ t.year ∧ t.year ≤ 9999
  month : 1 ≤ t.month ∧ t.month ≤ 12
  day : 1 ≤ t.day ∧ t.day ≤ 31
  hour : t.hour ≤ 23
  minute : t.minute ≤ 59
  second : t.second ≤ 59
  microsecond : t.microsecond ≤ 999999

/-- The form of a point in time: a letter other than `T` and `Z` stands for a digit. -/
def form : List Char := "YYYY-MM-DDTHH:MM:SS.mmmZ".toList

/-- Whether a character may stand where the form has a letter or a mark. -/
def Fits (mark c : Char) : Prop :=
  if mark.isAlpha ∧ mark ≠ 'T' ∧ mark ≠ 'Z' then isDecimalDigit c = true else c = mark

/-- A text of the form. -/
def Formed (text : String) : Prop := List.Forall₂ Fits form text.toList

instance (mark c : Char) : Decidable (Fits mark c) := inferInstanceAs (Decidable (ite _ _ _))

/-- A number fits where the form has a letter for each of its digits. -/
theorem fits_decimalPadded (letter : Char) (hletter : letter.isAlpha ∧ letter ≠ 'T' ∧ letter ≠ 'Z')
    {width n : Nat} (hwidth : 0 < width) (h : n < 10 ^ width) :
    List.Forall₂ Fits (List.replicate width letter) (decimalPadded width n) := by
  rw [List.forall₂_iff_zip]
  refine ⟨by rw [List.length_replicate, length_decimalPadded hwidth h], fun {mark c} hmem => ?_⟩
  obtain ⟨hmark, hc⟩ := List.of_mem_zip hmem
  obtain rfl := List.eq_of_mem_replicate hmark
  rw [Fits, if_pos hletter]
  exact isDecimalDigit_of_mem_decimalPadded hc

/-- The parts of a text before and after a mark. -/
theorem fits_append {before after : List Char} {start rest : List Char} (mark : Char)
    (hmark : Fits mark mark) (hstart : List.Forall₂ Fits before start)
    (hrest : List.Forall₂ Fits after rest) :
    List.Forall₂ Fits (before ++ mark :: after) (start ++ mark :: rest) :=
  List.rel_append hstart (.cons hmark hrest)

/-- A point in time of the calendar has a text of the form. -/
theorem iso_formed {t : Timestamp} (h : t.InCalendar) : Formed t.iso := by
  obtain ⟨hyear, hmonth, hday, hhour, hminute, hsecond, hmicrosecond⟩ := h
  have hform : form =
      List.replicate 4 'Y' ++ '-' :: List.replicate 2 'M' ++ '-' :: List.replicate 2 'D' ++
        'T' :: List.replicate 2 'H' ++ ':' :: List.replicate 2 'M' ++
        ':' :: List.replicate 2 'S' ++ '.' :: List.replicate 3 'm' ++ ['Z'] := by decide
  rw [Formed, iso, String.toList_ofList, hform, secondsChars]
  refine fits_append 'Z' (by decide) ?_ .nil
  refine fits_append '.' (by decide) ?_
    (fits_decimalPadded 'm' (by decide) (by decide) (by omega))
  refine fits_append ':' (by decide) ?_
    (fits_decimalPadded 'S' (by decide) (by decide) (by omega))
  refine fits_append ':' (by decide) ?_
    (fits_decimalPadded 'M' (by decide) (by decide) (by omega))
  refine fits_append 'T' (by decide) ?_
    (fits_decimalPadded 'H' (by decide) (by decide) (by omega))
  refine fits_append '-' (by decide) ?_
    (fits_decimalPadded 'D' (by decide) (by decide) (by omega))
  exact fits_append '-' (by decide)
    (fits_decimalPadded 'Y' (by decide) (by decide) (by omega))
    (fits_decimalPadded 'M' (by decide) (by decide) (by omega))

end Timestamp

end RegistryGateway
