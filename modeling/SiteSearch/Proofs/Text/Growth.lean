import Mathlib.Data.String.Basic
import SiteSearch.Proofs.Text.Lowering

-- How many bytes a text has when it is lowercased. Three capitals have a small form that takes a
-- byte more; no other character grows, and none disappears.
namespace SiteSearch.Text

-- The bytes of a character by its number.
def width (code : Nat) : Nat :=
  if code ≤ 0x7F then 1 else if code ≤ 0x7FF then 2 else if code ≤ 0xFFFF then 3 else 4

theorem utf8Size_eq_width (c : Char) : c.utf8Size = width c.toNat := by
  simp only [Char.utf8Size, width, UInt32.le_iff_toNat_le]
  rfl

theorem width_mono {small large : Nat} (below : small ≤ large) : width small ≤ width large := by
  unfold width
  split_ifs <;> omega

-- The capitals whose small form takes a byte more.
def grows (c : Char) : Bool :=
  c = '\u0130' || c = '\u023A' || c = '\u023E'

-- Whether no small form of a run is wider than its capital, but for the capitals that grow.
def CaseRun.fits (run : CaseRun) : Bool :=
  width (run.lower run.last) ≤ width run.first ||
    (run.first == run.last && grows (Char.ofNat run.first) &&
      width (run.lower run.last) ≤ width run.first + 1)

theorem caseRuns_fit : caseRuns.all CaseRun.fits = true := by
  decide +kernel

theorem width_lower_le {run : CaseRun} {c : Char} (fits : run.fits = true)
    (holds : run.holds c.toNat = true) :
    width (run.lower c.toNat) ≤ width c.toNat + (grows c).toNat := by
  obtain ⟨least, most, _⟩ := CaseRun.holds_iff.mp holds
  have narrow : width run.first ≤ width c.toNat := width_mono least
  have wide : width (run.lower c.toNat) ≤ width (run.lower run.last) := by
    apply width_mono
    unfold CaseRun.lower
    omega
  simp only [CaseRun.fits, Bool.or_eq_true, Bool.and_eq_true, beq_iff_eq,
    decide_eq_true_eq] at fits
  rcases fits with level | ⟨⟨single, growing⟩, more⟩
  · omega
  · have here : Char.ofNat run.first = c := by
      rw [show run.first = c.toNat by omega, Char.ofNat_toNat]
    rw [here] at growing
    rw [growing, Bool.toNat_true]
    omega

theorem utf8Len_lowerChar_le (c : Char) :
    String.utf8Len (lowerChar c) ≤ c.utf8Size + (grows c).toNat := by
  by_cases ascii : c.toNat < 0x80
  · have small := utf8Size_eq_width c.toLower
    have least := c.utf8Size_pos
    have within := toNat_toLower_lt ascii
    rw [lowerChar, if_pos ascii]
    simp only [String.utf8Len_cons, String.utf8Len_nil, small, width]
    split_ifs <;> omega
  · by_cases dotted : c = '\u0130'
    · subst dotted
      decide +kernel
    · cases found : caseRuns.find? (·.holds c.toNat) with
      | none => simp [lowerChar_of_none ascii dotted found]
      | some run =>
        have listed := List.mem_of_find?_eq_some found
        have holds := List.find?_some found
        have checks := List.all_eq_true.mp caseRuns_miss run listed
        have sound := (Bool.and_eq_true_iff.mp checks).1
        have fits := List.all_eq_true.mp caseRuns_fit run listed
        simpa [lowerChar_of_run ascii dotted found, utf8Size_eq_width,
          CaseRun.isSound_lower sound holds] using width_lower_le fits holds

theorem utf8Len_lowerAt_le (before : List Char) (c : Char) (after : List Char) :
    String.utf8Len (lowerAt before c after) ≤ c.utf8Size + (grows c).toNat := by
  unfold lowerAt
  split
  · next sigma =>
    subst sigma
    split <;> decide +kernel
  · exact utf8Len_lowerChar_le c

theorem utf8Len_lowerFrom_le (before text : List Char) :
    String.utf8Len (lowerFrom [] before text) ≤ String.utf8Len text + text.countP grows := by
  induction text generalizing before with
  | nil => exact Nat.le_refl 0
  | cons c after ih =>
    have here := utf8Len_lowerAt_le before c after
    have later := ih (c :: before)
    have counted : (c :: after).countP grows = after.countP grows + (grows c).toNat := by
      cases growing : grows c <;> simp [growing]
    rw [lowerFrom_cons, String.utf8Len_append, String.utf8Len_cons, counted]
    omega

theorem utf8ByteSize_eq (text : String) : text.utf8ByteSize = String.utf8Len text.toList := by
  rw [← String.utf8ByteSize_ofList, String.ofList_toList]

-- A lowercased text has one byte more for each capital that grows, at most.
theorem utf8ByteSize_lowercase_le (text : String) :
    (lowercase text).utf8ByteSize ≤ text.utf8ByteSize + text.toList.countP grows := by
  unfold lowercase
  rw [String.utf8ByteSize_ofList, utf8ByteSize_eq text]
  exact utf8Len_lowerFrom_le [] text.toList

-- Every capital that grows has two bytes of its own.
theorem two_mul_countP_grows_le (text : String) :
    2 * text.toList.countP grows ≤ text.utf8ByteSize := by
  rw [utf8ByteSize_eq]
  induction text.toList with
  | nil => exact Nat.le_refl 0
  | cons c rest ih =>
    rw [String.utf8Len_cons]
    cases growing : grows c with
    | false => simp [growing]; omega
    | true =>
      have double : c.utf8Size = 2 := by
        simp only [grows, Bool.or_eq_true, decide_eq_true_eq] at growing
        rcases growing with (rfl | rfl) | rfl <;> rfl
      simp [growing]
      omega

theorem lowerChar_ne_nil (c : Char) : lowerChar c ≠ [] := by
  by_cases ascii : c.toNat < 0x80
  · simp [lowerChar, ascii]
  · by_cases dotted : c = '\u0130'
    · simp [lowerChar, dotted]
    · cases found : caseRuns.find? (·.holds c.toNat) with
      | none => simp [lowerChar_of_none ascii dotted found]
      | some run => simp [lowerChar_of_run ascii dotted found]

theorem lowerAt_ne_nil (before : List Char) (c : Char) (after : List Char) :
    lowerAt before c after ≠ [] := by
  unfold lowerAt
  split
  · split <;> simp
  · exact lowerChar_ne_nil c

theorem lowercase_eq_empty_iff (text : String) : lowercase text = "" ↔ text = "" := by
  constructor
  · intro nothing
    apply String.toList_inj.mp
    have emptied := congrArg String.toList nothing
    unfold lowercase at emptied
    rw [String.toList_ofList] at emptied
    cases chars : text.toList with
    | nil => rfl
    | cons c after =>
      rw [chars, lowerFrom_cons] at emptied
      exact absurd (List.append_eq_nil_iff.mp emptied).1 (lowerAt_ne_nil [] c after)
  · rintro rfl
    rfl

end SiteSearch.Text
