import Finder.Proofs.MethodName.Parts
import Finder.Proofs.Text.LetterClasses

namespace Finder.MethodName

open Text

def separator : List Char := ['B', 'y']

theorem ofNonempty_getD (text : List Char) : ((ofNonempty text).getD "").toList = text := by
  unfold ofNonempty
  split
  · next h => simp [h]
  · simp

theorem ofNonempty_ne (text : List Char) : ofNonempty text ≠ some "" := by
  unfold ofNonempty
  split
  · simp
  · next h => simpa [String.ext_iff] using h

theorem ofNonempty_eq_none (text : List Char) : ofNonempty text = none ↔ text = [] := by
  simp [ofNonempty]

-- What is cut is the text, and the cut is made at the first separator.
theorem cutAtBy_eq_some (text before after : List Char) (h : cutAtBy text = some (before, after)) :
    text = before ++ separator ++ after := by
  fun_induction cutAtBy text generalizing before with
  | case1 rest =>
      obtain ⟨rfl, rfl⟩ := by simpa using h
      rfl
  | case2 c rest hc ih =>
      obtain ⟨⟨inner, later⟩, hr, he⟩ := Option.map_eq_some_iff.mp h
      obtain ⟨rfl, rfl⟩ := by simpa using he
      rw [ih inner hr]
      rfl
  | case3 => cases h

theorem cutAtBy_first (text before after : List Char) (h : cutAtBy text = some (before, after))
    (earlier later : List Char) (he : text = earlier ++ separator ++ later) :
    before.length ≤ earlier.length := by
  fun_induction cutAtBy text generalizing before earlier with
  | case1 rest =>
      obtain ⟨rfl, rfl⟩ := by simpa using h
      simp
  | case2 c rest hc ih =>
      obtain ⟨⟨inner, after⟩, hr, hi⟩ := Option.map_eq_some_iff.mp h
      obtain ⟨rfl, rfl⟩ := by simpa using hi
      cases earlier with
      | nil =>
          simp only [separator, List.nil_append, List.cons_append, List.cons.injEq] at he
          exact absurd he.2 (hc later he.1)
      | cons d earlier =>
          have := ih inner hr earlier (by simpa using (List.cons.inj he).2)
          simpa using this
  | case3 => cases h

theorem cutAtBy_eq_none (text : List Char) : cutAtBy text = none ↔ ¬separator <:+: text := by
  fun_induction cutAtBy text with
  | case1 rest =>
      have : separator <:+: 'B' :: 'y' :: rest := ⟨[], rest, rfl⟩
      simp [this]
  | case2 c rest hc ih =>
      rw [Option.map_eq_none_iff, ih, List.infix_cons_iff, not_or]
      refine ⟨fun h => ⟨?_, h⟩, And.right⟩
      rintro ⟨later, he⟩
      simp only [separator, List.cons_append, List.nil_append, List.cons.injEq] at he
      exact hc later he.1.symm he.2.symm
  | case3 => simp [separator]

-- A text without a separator makes none with the one behind it, since no `B` ends a separator.
theorem cutAtBy_append (before after : List Char) (h : ¬separator <:+: before) :
    cutAtBy (before ++ separator ++ after) = some (before, after) := by
  induction before with
  | nil => rfl
  | cons c before ih =>
      rw [List.infix_cons_iff, not_or] at h
      have hi := ih h.2
      rw [List.cons_append, List.cons_append, cutAtBy, hi]
      · rfl
      · rintro later rfl he
        cases before with
        | nil => simp [separator] at he
        | cons d before =>
            simp only [List.cons_append, List.cons.injEq] at he
            exact h.1 ⟨before, by simp [separator, he.1]⟩

theorem cutSubject_eq_some (text : List Char) (hu : ∃ c ∈ text.head?, isUpperLetter c)
    (hs : separator <:+: text) :
    ∃ before after, cutAtBy text = some (before, after) ∧
      cutSubject text = some (ofNonempty before, after) := by
  cases hc : cutAtBy text with
  | none => exact absurd hs ((cutAtBy_eq_none text).mp hc)
  | some cut =>
      obtain ⟨before, after⟩ := cut
      refine ⟨before, after, rfl, ?_⟩
      have ht := cutAtBy_eq_some text before after hc
      have hb : before = [] ∨ before.head?.any isUpperLetter := by
        cases before with
        | nil => exact .inl rfl
        | cons c before =>
            obtain ⟨d, hd, hu⟩ := hu
            obtain rfl : c = d := by simpa [ht] using hd
            exact .inr (by simpa using hu)
      simp only [cutSubject, hc]
      rw [if_pos hb]

theorem cutSubject_eq_none (text : List Char)
    (h : ¬((∃ c ∈ text.head?, isUpperLetter c) ∧ separator <:+: text)) :
    cutSubject text = none := by
  cases hc : cutAtBy text with
  | none => simp only [cutSubject, hc]
  | some cut =>
      obtain ⟨before, after⟩ := cut
      have ht := cutAtBy_eq_some text before after hc
      simp only [cutSubject, hc]
      rw [if_neg]
      intro hb
      refine h ⟨?_, ht ▸ ⟨before, after, rfl⟩⟩
      cases before with
      | nil => exact ⟨'B', by simp [ht, separator], by decide +kernel⟩
      | cons c before => exact ⟨c, by simp [ht], by simpa using hb⟩

theorem isNameChar_of_mem_separator : ∀ c ∈ separator, isNameChar c := by
  rw [← List.all_eq_true]
  decide +kernel

-- What can stand between a verb and the separator.
structure Qualifies (subject : Option String) : Prop where
  upper : ∀ given ∈ subject, ∃ c ∈ given.toList.head?, isUpperLetter c
  plain : ∀ given ∈ subject, ¬separator <:+: given.toList
  chars : ∀ given ∈ subject, ∀ c ∈ given.toList, isAlphanumeric c ∨ c = '_'

namespace Qualifies

variable {subject : Option String}

theorem ofNonempty_subject (h : Qualifies subject) :
    ofNonempty (subject.getD "").toList = subject := by
  cases subject with
  | none => rfl
  | some given =>
      obtain ⟨c, hc, _⟩ := h.upper given rfl
      have hne : given.toList ≠ [] := by
        intro he
        simp [he] at hc
      simp [ofNonempty, hne]

theorem separator_not_infix (h : Qualifies subject) :
    ¬separator <:+: (subject.getD "").toList := by
  cases subject with
  | none => simp [separator]
  | some given => exact h.plain given rfl

theorem head?_subject (h : Qualifies subject) (later : List Char) :
    ∃ c ∈ ((subject.getD "").toList ++ separator ++ later).head?, isUpperLetter c := by
  cases subject with
  | none => exact ⟨'B', rfl, by decide +kernel⟩
  | some given =>
      obtain ⟨c, hc, hu⟩ := h.upper given rfl
      refine ⟨c, ?_, hu⟩
      rw [Option.getD_some, List.append_assoc, List.head?_append, Option.mem_def.mp hc]
      rfl

theorem isNameChar_subject (h : Qualifies subject) :
    ∀ c ∈ (subject.getD "").toList, isNameChar c := by
  cases subject with
  | none => simp
  | some given => simpa [isNameChar] using h.chars given rfl

-- The separator behind a subject is the first one, whatever follows.
theorem cutSubject_append (h : Qualifies subject) (after : List Char) :
    cutSubject ((subject.getD "").toList ++ separator ++ after) = some (subject, after) := by
  have hcut := cutAtBy_append (subject.getD "").toList after h.separator_not_infix
  obtain ⟨before, later, hb, hs⟩ :=
    cutSubject_eq_some _ (h.head?_subject after) (List.infix_append _ _ _)
  obtain ⟨rfl, rfl⟩ : (subject.getD "").toList = before ∧ after = later := by
    simpa only [hcut, Option.some.injEq, Prod.mk.injEq] using hb
  rw [hs, h.ofNonempty_subject]

end Qualifies

end Finder.MethodName
