import Finder.MethodName
import Mathlib.Data.List.Infix

namespace Finder

def Connector.letters (connector : Connector) : List Char :=
  connector.keyword.toList

namespace MethodName

open Text Connector

-- Parts with their connectors between them.
def joinParts : List (List Char) → List Connector → List Char
  | part :: rest, connector :: connectors => part ++ letters connector ++ joinParts rest connectors
  | part :: _, [] => part
  | [], _ => []

-- A keyword inside a part would end it, unless it runs on in small letters or is the last word of the
-- name. At the end of any other part it is followed by the capital of a connector.
def Unbroken (last : Prop) (part : List Char) : Prop :=
  ∀ before connector after, part = before ++ letters connector ++ after → before ≠ [] →
    opensPart after = false ∧ (after = [] → last)

@[simp] theorem letters_and : letters .and = ['A', 'n', 'd'] := rfl

@[simp] theorem letters_or : letters .or = ['O', 'r'] := rfl

theorem opensPart_append (part rest : List Char) (h : part ≠ []) :
    opensPart (part ++ rest) = opensPart part := by
  cases part with
  | nil => exact absurd rfl h
  | cons c part => rfl

theorem ne_nil_of_opensPart (part : List Char) (h : opensPart part) : part ≠ [] := by
  rintro rfl
  simp [opensPart] at h

theorem splitParts_nil (part : List Char) : splitParts part [] = ([part.reverse], []) := rfl

theorem splitParts_keyword (part : List Char) (connector : Connector) (rest : List Char) :
    splitParts part (letters connector ++ rest) =
      if part ≠ [] ∧ opensPart rest then
        (part.reverse :: (splitParts [] rest).1, connector :: (splitParts [] rest).2)
      else splitParts ((letters connector).reverse ++ part) rest := by
  cases connector <;> rfl

theorem splitParts_plain (part : List Char) (c : Char) (rest : List Char)
    (h : ∀ connector, ¬ letters connector <+: c :: rest) :
    splitParts part (c :: rest) = splitParts (c :: part) rest := by
  rw [splitParts]
  · rintro rest rfl rfl
    exact h .and ⟨rest, rfl⟩
  · rintro rest rfl rfl
    exact h .or ⟨rest, rfl⟩

-- A text is empty, or begins with a keyword, or begins with a character that starts none.
theorem keyword_induction {motive : List Char → Prop} (text : List Char) (nil : motive [])
    (keyword : ∀ connector rest, motive rest → motive (letters connector ++ rest))
    (plain : ∀ c rest, (∀ connector, ¬ letters connector <+: c :: rest) → motive rest →
      motive (c :: rest)) : motive text := by
  induction hn : text.length using Nat.strongRecOn generalizing text with
  | ind n ih =>
      subst hn
      by_cases h : ∃ connector, letters connector <+: text
      · obtain ⟨connector, rest, rfl⟩ := h
        refine keyword connector rest (ih rest.length ?_ rest rfl)
        have hpos : 0 < (letters connector).length := by cases connector <;> simp
        rw [List.length_append]
        omega
      · cases text with
        | nil => exact nil
        | cons c rest =>
            have hrest := ih rest.length (by simp) rest rfl
            exact plain c rest (fun connector hc => h ⟨connector, hc⟩) hrest

theorem joinParts_splitParts (part text : List Char) :
    joinParts (splitParts part text).1 (splitParts part text).2 = part.reverse ++ text := by
  induction text using keyword_induction generalizing part with
  | nil => simp [splitParts_nil, joinParts]
  | keyword connector rest ih =>
      rw [splitParts_keyword]
      split
      · simp only [joinParts, ih, List.reverse_nil, List.nil_append, List.append_assoc]
      · simp [ih]
  | plain c rest h ih =>
      rw [splitParts_plain part c rest h, ih]
      simp

theorem mem_joinParts_of_mem (parts : List (List Char)) (connectors : List Connector)
    (hlength : connectors.length + 1 = parts.length) (part : List Char) (hp : part ∈ parts)
    (c : Char) (hc : c ∈ part) : c ∈ joinParts parts connectors := by
  induction parts generalizing connectors with
  | nil => cases hp
  | cons first rest ih =>
      cases connectors with
      | nil =>
          obtain rfl : rest = [] := by simpa using hlength
          rwa [joinParts, ← List.mem_singleton.mp hp]
      | cons connector connectors =>
          rw [joinParts, List.mem_append, List.mem_append]
          rcases List.mem_cons.mp hp with rfl | hp
          · exact .inl (.inl hc)
          · exact .inr (ih connectors (by simpa using hlength) hp)

theorem length_splitParts (part text : List Char) :
    (splitParts part text).2.length + 1 = (splitParts part text).1.length := by
  induction text using keyword_induction generalizing part with
  | nil => rfl
  | keyword connector rest ih =>
      rw [splitParts_keyword]
      split
      · simp only [List.length_cons, ih]
      · exact ih _
  | plain c rest h ih =>
      rw [splitParts_plain part c rest h]
      exact ih _

theorem ne_nil_of_mem_splitParts (part text : List Char) (hne : part.reverse ++ text ≠ []) :
    ∀ found ∈ (splitParts part text).1, found ≠ [] := by
  induction text using keyword_induction generalizing part with
  | nil => simpa [splitParts_nil] using hne
  | keyword connector rest ih =>
      rw [splitParts_keyword]
      split
      · next hs =>
        intro found hf
        rcases List.mem_cons.mp hf with rfl | hf
        · simpa using hs.1
        · exact ih [] (by simpa using ne_nil_of_opensPart rest hs.2) found hf
      · exact ih _ (by cases connector <;> simp)
  | plain c rest h ih =>
      rw [splitParts_plain part c rest h]
      exact ih _ (by simp)

theorem opensPart_of_mem_splitParts (part text : List Char)
    (h : opensPart (part.reverse ++ text)) :
    ∀ found ∈ (splitParts part text).1, opensPart found := by
  induction text using keyword_induction generalizing part with
  | nil => simpa [splitParts_nil] using h
  | keyword connector rest ih =>
      rw [splitParts_keyword]
      split
      · next hs =>
        intro found hf
        rcases List.mem_cons.mp hf with rfl | hf
        · rwa [opensPart_append _ _ (by simpa using hs.1)] at h
        · exact ih [] hs.2 found hf
      · exact ih _ (by simpa using h)
  | plain c rest hc ih =>
      rw [splitParts_plain part c rest hc]
      exact ih _ (by simpa using h)

-- Every part but the first begins after a keyword that ended there.
theorem opensPart_of_mem_tail (part text : List Char) :
    ∀ found ∈ (splitParts part text).1.tail, opensPart found := by
  induction text using keyword_induction generalizing part with
  | nil => simp [splitParts_nil]
  | keyword connector rest ih =>
      rw [splitParts_keyword]
      split
      · next hs => exact opensPart_of_mem_splitParts [] rest hs.2
      · exact ih _
  | plain c rest h ih =>
      rw [splitParts_plain part c rest h]
      exact ih _

-- No keyword begins in a part and ends in the connector behind it.
theorem letters_prefix_of_append (text : List Char) (found connector : Connector)
    (rest : List Char) (hne : text ≠ [])
    (h : letters found <+: text ++ (letters connector ++ rest)) : letters found <+: text := by
  match text, hne with
  | [a], _ => cases found <;> cases connector <;> simp at h
  | [a, b], _ => cases found <;> cases connector <;> simp at h ⊢ <;> exact h
  | a :: b :: c :: text, _ => cases found <;> simpa using h

theorem splitParts_append (part text tail : List Char)
    (hu : Unbroken (tail = []) (part.reverse ++ text))
    (ht : tail = [] ∨ ∃ connector rest, tail = letters connector ++ rest) :
    splitParts part (text ++ tail) = splitParts (text.reverse ++ part) tail := by
  induction text using keyword_induction generalizing part with
  | nil => rfl
  | keyword connector rest ih =>
      rw [List.append_assoc, splitParts_keyword, if_neg]
      · rw [ih _ (by simpa using hu)]
        simp
      · rintro ⟨hp, ho⟩
        obtain ⟨hc, hl⟩ := hu part.reverse connector rest (by simp) (by simpa using hp)
        cases rest with
        | nil =>
            rw [hl rfl] at ho
            simp [opensPart] at ho
        | cons c rest =>
            rw [opensPart_append _ _ (by simp), hc] at ho
            cases ho
  | plain c rest h ih =>
      rw [List.cons_append, splitParts_plain, ih _ (by simpa using hu)]
      · simp
      · intro connector hc
        rcases ht with rfl | ⟨next, later, rfl⟩
        · exact h connector (by simpa using hc)
        · exact h connector (letters_prefix_of_append _ connector next later (by simp) hc)

-- All parts are found again. Each is unbroken, and each but the first opens a part.
theorem splitParts_joinParts (first : List Char) (later : List (List Char))
    (connectors : List Connector) (hlen : later.length = connectors.length)
    (hne : first ≠ []) (hopen : ∀ part ∈ later, opensPart part)
    (hu : ∀ earlier part rest, first :: later = earlier ++ part :: rest →
      Unbroken (rest = []) part) :
    splitParts [] (joinParts (first :: later) connectors) = (first :: later, connectors) := by
  induction later generalizing first connectors with
  | nil =>
      obtain rfl : connectors = [] := List.length_eq_zero_iff.mp hlen.symm
      have hs := splitParts_append [] first [] (by simpa using hu [] first [] rfl) (.inl rfl)
      rw [List.append_nil, splitParts_nil] at hs
      simpa [joinParts] using hs
  | cons next later ih =>
      cases connectors with
      | nil => cases hlen
      | cons connector connectors =>
          have hnext : opensPart next := hopen next List.mem_cons_self
          have hrest : opensPart (joinParts (next :: later) connectors) := by
            cases connectors with
            | nil => exact hnext
            | cons connector connectors =>
                rw [joinParts, List.append_assoc, opensPart_append _ _ (ne_nil_of_opensPart _ hnext)]
                exact hnext
          have hs := splitParts_append [] first
            (letters connector ++ joinParts (next :: later) connectors)
            (by
              intro before found after he hb
              obtain ⟨ho, hl⟩ := hu [] first (next :: later) rfl before found after he hb
              exact ⟨ho, fun ha => absurd (hl ha) (by simp)⟩)
            (.inr ⟨connector, _, rfl⟩)
          have hi := ih next connectors (by simpa using hlen) (ne_nil_of_opensPart _ hnext)
            (fun part hp => hopen part (List.mem_cons_of_mem _ hp))
            (fun earlier part rest he => hu (first :: earlier) part rest (by rw [he]; rfl))
          rw [joinParts, List.append_assoc, hs, splitParts_keyword,
            if_pos ⟨by simpa using hne, hrest⟩, hi]
          simp

end MethodName

end Finder
