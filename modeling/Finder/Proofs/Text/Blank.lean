import Finder.Proofs.Text.LetterClasses
import Mathlib.Data.List.TakeWhile

namespace Finder.Text

-- The blank characters by their code points: the tabs and line breaks of ASCII, the space, the next
-- line, the no-break space, and the spaces and separators of other scripts and of typesetting.
theorem isBlankChar_iff (c : Char) : isBlankChar c ↔
    0x9 ≤ c.toNat ∧ c.toNat ≤ 0xD ∨ c.toNat = 0x20 ∨ c.toNat = 0x85 ∨ c.toNat = 0xA0 ∨
      c.toNat = 0x1680 ∨ 0x2000 ≤ c.toNat ∧ c.toNat ≤ 0x200A ∨ c.toNat = 0x2028 ∨ c.toNat = 0x2029 ∨
        c.toNat = 0x202F ∨ c.toNat = 0x205F ∨ c.toNat = 0x3000 := by
  rw [isBlankChar, CodeSet.has_iff whiteSpace (by decide +kernel)]
  simp only [whiteSpace, List.exists_mem_cons_iff, List.not_mem_nil, CodeRun.has_iff, Nat.mod_one,
    false_and, exists_false, or_false, and_true]
  omega

theorem isBlank_iff (text : String) : isBlank text ↔ ∀ c ∈ text.toList, isBlankChar c :=
  List.all_eq_true

-- What is trimmed off a text is blank.
theorem exists_trimmed (text : List Char) :
    ∃ before after, text = before ++ trimBlanks text ++ after ∧
      ∀ c ∈ before ++ after, isBlankChar c := by
  have hafter : text.dropWhile isBlankChar = trimBlanks text ++
      ((text.dropWhile isBlankChar).reverse.takeWhile isBlankChar).reverse := by
    rw [trimBlanks, ← List.reverse_append, List.takeWhile_append_dropWhile, List.reverse_reverse]
  refine ⟨text.takeWhile isBlankChar,
    ((text.dropWhile isBlankChar).reverse.takeWhile isBlankChar).reverse, ?_, ?_⟩
  · rw [List.append_assoc, ← hafter, List.takeWhile_append_dropWhile]
  · intro c hc
    rw [List.mem_append, List.mem_reverse] at hc
    rcases hc with hc | hc
    · exact List.mem_takeWhile_imp hc
    · exact List.mem_takeWhile_imp hc

theorem dropWhile_blanks (blanks word rest : List Char) (hblanks : ∀ c ∈ blanks, isBlankChar c)
    (hword : ∀ c ∈ word, isBlankChar c = false) (hne : word ≠ []) :
    (blanks ++ (word ++ rest)).dropWhile isBlankChar = word ++ rest := by
  obtain ⟨c, later, rfl⟩ := List.exists_cons_of_ne_nil hne
  have hc := hword c List.mem_cons_self
  rw [List.dropWhile_append_of_pos hblanks, List.cons_append,
    List.dropWhile_cons_of_neg (by simp [hc])]

theorem trimBlanks_eq (before word after : List Char) (hblanks : ∀ c ∈ before ++ after, isBlankChar c)
    (hword : ∀ c ∈ word, isBlankChar c = false) (hne : word ≠ []) :
    trimBlanks (before ++ word ++ after) = word := by
  rw [List.forall_mem_append] at hblanks
  have hfront : (before ++ word ++ after).dropWhile isBlankChar = word ++ after := by
    rw [List.append_assoc]
    exact dropWhile_blanks before word after hblanks.1 hword hne
  have hback := dropWhile_blanks after.reverse word.reverse [] (by simpa using hblanks.2)
    (by simpa using hword) (by simpa using hne)
  rw [trimBlanks, hfront, List.reverse_append]
  rw [List.append_nil] at hback
  rw [hback, List.reverse_reverse]

-- Nothing is left of a text by trimming where it is blank, and only there.
theorem trimBlanks_eq_nil_iff (text : List Char) :
    trimBlanks text = [] ↔ ∀ c ∈ text, isBlankChar c := by
  rw [trimBlanks, List.reverse_eq_nil_iff, List.dropWhile_eq_nil_iff]
  simp only [List.mem_reverse]
  constructor
  · intro hrest c hc
    rw [← List.takeWhile_append_dropWhile (p := isBlankChar) (l := text), List.mem_append] at hc
    rcases hc with hc | hc
    · exact List.mem_takeWhile_imp hc
    · exact hrest c hc
  · intro hblank c hc
    exact hblank c (List.dropWhile_subset isBlankChar hc)

theorem isBlank_iff_trimBlanks (text : String) :
    isBlank text ↔ trimBlanks text.toList = [] := by
  rw [isBlank_iff, trimBlanks_eq_nil_iff]

-- A letter of a word is no blank, whatever its size.
theorem isBlankChar_of_isLower_toLower (c : Char) (h : c.toLower.isLower) :
    isBlankChar c = false := by
  have hascii : ∀ code < 128, (Char.ofNat code).toLower.isLower →
      isBlankChar (Char.ofNat code) = false := by
    decide +kernel
  have hcode : c.toNat < 128 := by
    by_contra hlarge
    have hval : ¬c.toNat ≤ 'Z'.toNat := by
      show ¬c.toNat ≤ 90
      omega
    have hsame : c.toLower = c :=
      dif_neg fun hcapital => hval (UInt32.le_iff_toNat_le.mp hcapital.2)
    have hrange := (isLower_iff c).mp (hsame ▸ h)
    omega
  have hblank := hascii c.toNat hcode
  rw [Char.ofNat_toNat] at hblank
  exact hblank h

end Finder.Text
