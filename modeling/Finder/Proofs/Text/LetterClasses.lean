import Finder.Proofs.Text.CodeSet
import Finder.Text.Alphanumeric
import Finder.Text.LetterCase

namespace Finder.Text

theorem isAlphanumeric_of_isLowerLetter (c : Char) (h : isLowerLetter c) : isAlphanumeric c :=
  CodeSet.has_of_coverAll lowerLetters alphanumeric (by decide +kernel) (by decide +kernel) c h

theorem isLowerLetter_of_isUpperLetter (c : Char) (h : isUpperLetter c) :
    isLowerLetter c = false :=
  CodeSet.not_has_of_apartAll upperLetters lowerLetters (by decide +kernel) (by decide +kernel)
    (by decide +kernel) c h

-- Among the first 128 code points only the letters from A to Z are capitals.
theorem isUpper_of_ascii (c : Char) (h : c.toNat < 128) :
    isUpper c = decide (65 ≤ c.toNat ∧ c.toNat ≤ 90) := by
  have hall : ∀ code < 128,
      (CodeRun.anyHas upperLetters.runs code || CodeRun.anyHas otherUpper.runs code) =
        decide (65 ≤ code ∧ code ≤ 90) := by
    decide +kernel
  exact hall c.toNat h

theorem isLower_iff (c : Char) : c.isLower ↔ 97 ≤ c.toNat ∧ c.toNat ≤ 122 := by
  rw [show c.isLower = (decide (97 ≤ c.val) && decide (c.val ≤ 122)) from rfl]
  simp [UInt32.le_iff_toNat_le]

-- The capital of a small ASCII letter is a letter that names are cut by, and its small form is the
-- letter again.
theorem capital_of_isLower (c : Char) (h : c.isLower) :
    isUpper c.toUpper ∧ isAlphanumeric c.toUpper ∧ lowerChar c.toUpper = [c] := by
  have hall : ∀ code < 128, (Char.ofNat code).isLower →
      isUpper (Char.ofNat code).toUpper ∧ isAlphanumeric (Char.ofNat code).toUpper ∧
        lowerChar (Char.ofNat code).toUpper = [Char.ofNat code] := by
    decide +kernel
  have hrange := (isLower_iff c).mp h
  have hcode := hall c.toNat (by omega)
  rw [Char.ofNat_toNat] at hcode
  exact hcode h

theorem isAlphanum_iff (c : Char) :
    c.isAlphanum ↔ 48 ≤ c.toNat ∧ c.toNat ≤ 57 ∨ 65 ≤ c.toNat ∧ c.toNat ≤ 90 ∨
      97 ≤ c.toNat ∧ c.toNat ≤ 122 := by
  have hranges : c.isAlphanum = (decide (65 ≤ c.val ∧ c.val ≤ 90) ||
      (decide (97 ≤ c.val) && decide (c.val ≤ 122)) ||
        (decide (48 ≤ c.val) && decide (c.val ≤ 57))) := rfl
  rw [hranges]
  simp only [Bool.or_eq_true, Bool.and_eq_true, decide_eq_true_eq, UInt32.le_iff_toNat_le]
  change (65 ≤ c.toNat ∧ c.toNat ≤ 90 ∨ 97 ≤ c.toNat ∧ c.toNat ≤ 122) ∨
    48 ≤ c.toNat ∧ c.toNat ≤ 57 ↔ _
  omega

-- A letter or digit of ASCII, or any character beyond it.
def isPlain (c : Char) : Bool :=
  c.isAlphanum || 128 ≤ c.toNat

theorem isPlain_iff (c : Char) :
    isPlain c ↔ 48 ≤ c.toNat ∧ c.toNat ≤ 57 ∨ 65 ≤ c.toNat ∧ c.toNat ≤ 90 ∨
      97 ≤ c.toNat ∧ c.toNat ≤ 122 ∨ 128 ≤ c.toNat := by
  rw [isPlain, Bool.or_eq_true, isAlphanum_iff, decide_eq_true_eq]
  omega

theorem isPlain_of_isAlphanumeric (c : Char) (h : isAlphanumeric c) : isPlain c := by
  have hall : ∀ code < 128, CodeRun.anyHas alphanumeric.runs code =
      decide (48 ≤ code ∧ code ≤ 57 ∨ 65 ≤ code ∧ code ≤ 90 ∨ 97 ≤ code ∧ code ≤ 122) := by
    decide +kernel
  rw [isPlain_iff]
  by_cases hascii : c.toNat < 128
  · have hcode := (hall c.toNat hascii).symm.trans h
    rw [decide_eq_true_eq] at hcode
    omega
  · omega

namespace CaseShift

-- The code points of a run go to small ASCII letters, or all to characters beyond ASCII.
def staysPlain (shift : CaseShift) : Bool :=
  let low : Int := shift.run.first + shift.offset
  let high : Int := shift.run.last + shift.offset
  97 ≤ low && high ≤ 122 || 128 ≤ low && high < 0xD800 || 0xDFFF < low && high < 0x110000

theorem find?_eq_some (shifts : List CaseShift) (code : Nat) (offset : Int)
    (h : find? shifts code = some offset) :
    ∃ shift ∈ shifts, shift.run.has code ∧ shift.offset = offset := by
  induction shifts with
  | nil => cases h
  | cons shift rest ih =>
      simp only [find?] at h
      split at h
      · cases h
      split at h
      · split at h
        · next hhas => exact ⟨shift, List.mem_cons_self, hhas, Option.some.inj h⟩
        · cases h
      · obtain ⟨other, hm, hother⟩ := ih h
        exact ⟨other, List.mem_cons_of_mem _ hm, hother⟩

theorem isPlain_of_staysPlain (shift : CaseShift) (code : Nat) (h : shift.staysPlain)
    (hhas : shift.run.has code) : isPlain (Char.ofNat (code + shift.offset).toNat) := by
  obtain ⟨hfirst, hlast, _⟩ := (CodeRun.has_iff shift.run code).mp hhas
  simp only [staysPlain, Bool.or_eq_true, Bool.and_eq_true, decide_eq_true_eq] at h
  have hvalid : (code + shift.offset).toNat.isValidChar := by
    unfold Nat.isValidChar
    omega
  have hcode : (Char.ofNat (code + shift.offset).toNat).toNat = (code + shift.offset).toNat := by
    rw [Char.ofNat, dif_pos hvalid]
    rfl
  rw [isPlain_iff, hcode]
  omega

end CaseShift

-- The small form of a letter may have several characters, or leave its alphabet.
theorem isPlain_of_mem_lowerChar (c : Char) (h : isPlain c) : ∀ d ∈ lowerChar c, isPlain d := by
  have hshifts : ∀ shift ∈ lowerShifts, shift.staysPlain := by
    decide +kernel
  have hdot : isPlain 'i' ∧ isPlain '\u0307' := by
    decide +kernel
  unfold lowerChar
  split
  · simpa using hdot
  · cases hfind : CaseShift.find? lowerShifts c.toNat with
    | none => simpa using h
    | some offset =>
        obtain ⟨shift, hm, hhas, rfl⟩ := CaseShift.find?_eq_some _ _ _ hfind
        simpa using shift.isPlain_of_staysPlain c.toNat (hshifts shift hm) hhas

end Finder.Text
