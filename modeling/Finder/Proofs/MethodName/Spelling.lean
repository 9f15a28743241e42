import Finder.Proofs.MethodName.Reading

namespace Finder.MethodName

open Text Connector

-- What a name can be put together from.
structure Spelled (method : MethodName) : Prop where
  verb_ne : method.verb ≠ ""
  verb_lower : ∀ c ∈ method.verb.toList, isLowerLetter c
  subject_upper : ∀ subject ∈ method.subject, ∃ c ∈ subject.toList.head?, isUpperLetter c
  subject_plain : ∀ subject ∈ method.subject, ¬separator <:+: subject.toList
  subject_chars : ∀ subject ∈ method.subject, ∀ c ∈ subject.toList, isAlphanumeric c ∨ c = '_'
  balanced : method.parts.length = method.connectors.length + 1
  part_chars : ∀ part ∈ method.parts, ∀ c ∈ part.toList, isAlphanumeric c ∨ c = '_'
  part_ne : ∀ part ∈ method.parts, part ≠ ""
  part_open : ∀ part ∈ method.parts.tail, ∃ c ∈ part.toList.head?, isUpper c ∨ 128 ≤ c.toNat

-- No part has a keyword behind its start that a capital or a character beyond ASCII follows, in the
-- part or, where another part follows, at its end.
def HidesNoConnector (method : MethodName) : Prop :=
  ∀ earlier part later, method.parts = earlier ++ part :: later →
    ∀ before connector after, part = before ++ keyword connector ++ after → before ≠ "" →
      (¬∃ c ∈ after.toList.head?, isUpper c ∨ 128 ≤ c.toNat) ∧ (after = "" → later = [])

-- Every keyword in a part opens it, or ends the name, or runs on in small letters, digits or an
-- underscore.
def KeywordsRunOn (method : MethodName) : Prop :=
  ∀ earlier part later, method.parts = earlier ++ part :: later →
    ∀ before connector after, part = before ++ keyword connector ++ after →
      before = "" ∨ (after = "" ∧ later = []) ∨
        ∃ c ∈ after.toList.head?, c.isLower ∨ c.isDigit ∨ c = '_'

theorem unbroken_of_hidesNoConnector (method : MethodName) (h : method.HidesNoConnector)
    (earlier : List String) (part : String) (later : List String)
    (he : method.parts = earlier ++ part :: later) : Unbroken (later = []) part.toList := by
  intro before connector after hp hb
  have hs : part = String.ofList before ++ keyword connector ++ String.ofList after := by
    simpa [String.ext_iff, letters] using hp
  obtain ⟨ho, hl⟩ := h earlier part later he _ connector _ hs (by simpa using hb)
  constructor
  · rw [Bool.eq_false_iff, ne_eq, opensPart_iff]
    simpa using ho
  · simpa using hl

theorem not_isUpper_of_runsOn (c : Char) (h : c.isLower ∨ c.isDigit ∨ c = '_') :
    ¬(isUpper c ∨ 128 ≤ c.toNat) := by
  have hc : c.toNat < 128 ∧ ¬(65 ≤ c.toNat ∧ c.toNat ≤ 90) := by
    rcases h with h | h | rfl
    · have hb := (isLower_iff c).mp h
      omega
    · have hb : 48 ≤ c.toNat ∧ c.toNat ≤ 57 := by
        simpa [Char.isDigit, UInt32.le_iff_toNat_le] using h
      omega
    · decide
  rw [isUpper_of_ascii c hc.1]
  simp [hc]

theorem hidesNoConnector_of_keywordsRunOn (method : MethodName) (h : method.KeywordsRunOn) :
    method.HidesNoConnector := by
  intro earlier part later he before connector after hp hb
  rcases h earlier part later he before connector after hp with hb' | ⟨rfl, rfl⟩ | ⟨c, hc, hr⟩
  · exact absurd hb' hb
  · simp
  · constructor
    · rintro ⟨d, hd, ho⟩
      obtain rfl : c = d := by simpa [Option.mem_def.mp hc] using hd
      exact not_isUpper_of_runsOn c hr ho
    · rintro rfl
      simp at hc

theorem isNameChar_of_mem_letters (connector : Connector) :
    ∀ c ∈ letters connector, isNameChar c := by
  rw [← List.all_eq_true]
  cases connector <;> decide +kernel

theorem allowed_of_all (text : List Char) (h : text.all isNameChar) :
    ∀ c ∈ text, isAlphanumeric c ∨ c = '_' := by
  simpa [isNameChar] using h

theorem mem_joinParts (parts : List (List Char)) (connectors : List Connector) (c : Char)
    (h : c ∈ joinParts parts connectors) :
    (∃ part ∈ parts, c ∈ part) ∨ ∃ connector, c ∈ letters connector := by
  fun_induction joinParts parts connectors with
  | case1 part rest connector connectors ih =>
      rcases List.mem_append.mp h with h | h
      · rcases List.mem_append.mp h with h | h
        · exact .inl ⟨part, List.mem_cons_self, h⟩
        · exact .inr ⟨connector, h⟩
      · rcases ih h with ⟨other, ho, hc⟩ | hk
        · exact .inl ⟨other, List.mem_cons_of_mem _ ho, hc⟩
        · exact .inr hk
  | case2 part rest => exact .inl ⟨part, List.mem_cons_self, h⟩
  | case3 connectors => cases h

namespace Spelled

variable {method : MethodName}

theorem qualifies (h : method.Spelled) : Qualifies method.subject :=
  ⟨h.subject_upper, h.subject_plain, h.subject_chars⟩

theorem head?_subject (h : method.Spelled) (later : List Char) :
    ∃ c ∈ ((method.subject.getD "").toList ++ separator ++ later).head?, isUpperLetter c :=
  h.qualifies.head?_subject later

theorem isNameChar_subject (h : method.Spelled) :
    ∀ c ∈ (method.subject.getD "").toList, isNameChar c :=
  h.qualifies.isNameChar_subject

theorem isNameChar_condition (h : method.Spelled) :
    ∀ c ∈ joinParts (method.parts.map String.toList) method.connectors, isNameChar c := by
  intro c hc
  rcases mem_joinParts _ _ c hc with ⟨part, hp, hc⟩ | ⟨connector, hk⟩
  · obtain ⟨written, hw, rfl⟩ := List.mem_map.mp hp
    simpa [isNameChar] using h.part_chars written hw c hc
  · exact isNameChar_of_mem_letters connector c hk

theorem cutParts_condition (h : method.Spelled) (hc : method.HidesNoConnector) :
    cutParts (joinParts (method.parts.map String.toList) method.connectors) =
      (method.parts.map String.toList, method.connectors) := by
  obtain ⟨first, later, hp⟩ := List.exists_cons_of_ne_nil (l := method.parts) (by
    intro hn
    simpa [hn] using h.balanced)
  have hfirst : first.toList ≠ [] := by
    simpa using h.part_ne first (by simp [hp])
  have hs := splitParts_joinParts first.toList (later.map String.toList) method.connectors
    (by simpa [hp] using h.balanced) hfirst
    (by
      intro part hm
      obtain ⟨written, hw, rfl⟩ := List.mem_map.mp hm
      exact (opensPart_iff _).mpr (h.part_open written (by simpa [hp] using hw)))
    (by
      intro earlier part rest he
      rw [← List.map_cons, ← hp, List.map_eq_append_iff] at he
      obtain ⟨earlier, found, hparts, rfl, he⟩ := he
      obtain ⟨part, rest, rfl, rfl, rfl⟩ := List.map_eq_cons_iff.mp he
      simpa using unbroken_of_hidesNoConnector method hc earlier part rest hparts)
  rw [hp, List.map_cons, cutParts, if_neg, hs]
  intro hn
  rw [hn] at hs
  simp [splitParts_nil, Ne.symm hfirst] at hs

theorem afterVerb_text (h : method.Spelled) (hc : method.HidesNoConnector) :
    afterVerb method.verb.toList ((method.subject.getD "").toList ++ separator ++
      joinParts (method.parts.map String.toList) method.connectors) = method := by
  simp only [afterVerb, h.qualifies.cutSubject_append, h.cutParts_condition hc]
  simp [Function.comp_def]

end Spelled

-- What is written by these rules is read as it was written. Keywords that open a part, and keywords
-- that run on or end the name, are left in their parts.
theorem parse_text (method : MethodName) (h : method.Spelled) :
    (method.HidesNoConnector → parse method.text = .ok method) ∧
      (method.KeywordsRunOn → parse method.text = .ok method) := by
  have hparse (hc : method.HidesNoConnector) : parse method.text = .ok method := by
    have hname : method.text.toList = method.verb.toList ++ ((method.subject.getD "").toList ++
        separator ++ joinParts (method.parts.map String.toList) method.connectors) := by
      simp [text, condition, separator]
    have hverb : method.verb.toList ≠ [] := by simpa using h.verb_ne
    rw [parse_append method.text _ _ hname hverb h.verb_lower, h.afterVerb_text hc]
    · intro c hm
      obtain ⟨d, hd, hu⟩ := h.head?_subject
        (joinParts (method.parts.map String.toList) method.connectors)
      obtain rfl : d = c := Option.some.inj (hd.symm.trans hm)
      exact isLowerLetter_of_isUpperLetter d hu
    · intro c hm
      rcases List.mem_append.mp hm with hm | hm
      · rcases List.mem_append.mp hm with hm | hm
        · exact h.isNameChar_subject c hm
        · exact isNameChar_of_mem_separator c hm
      · exact h.isNameChar_condition c hm
  exact ⟨hparse, fun hk => hparse (hidesNoConnector_of_keywordsRunOn method hk)⟩

-- `Or` is a part here, and `Andy` opens with a keyword right behind one.
def orAndAndy : MethodName :=
  ⟨"find", some "Distinct", ["Or", "Andy"], [.and]⟩

theorem orAndAndy_spelled : orAndAndy.Spelled where
  verb_ne := by decide
  verb_lower := by
    rw [← List.all_eq_true]
    decide +kernel
  subject_upper := by
    rintro _ ⟨⟩
    exact ⟨'D', rfl, by decide +kernel⟩
  subject_plain := by
    rintro _ ⟨⟩
    rw [← cutAtBy_eq_none]
    rfl
  subject_chars := by
    rintro _ ⟨⟩
    exact allowed_of_all _ (by decide +kernel)
  balanced := rfl
  part_chars := by
    rintro _ (_ | ⟨_, _ | ⟨_, ⟨⟩⟩⟩)
    · exact allowed_of_all _ (by decide +kernel)
    · exact allowed_of_all _ (by decide +kernel)
  part_ne := by decide
  part_open := by
    rintro _ (_ | ⟨_, ⟨⟩⟩)
    exact ⟨'A', rfl, .inl (by decide +kernel)⟩

theorem orAndAndy_keywordsRunOn : orAndAndy.KeywordsRunOn := by
  intro earlier part later hp before connector after he
  have hpart : part = "Or" ∨ part = "Andy" := by
    have hm : part ∈ orAndAndy.parts := hp ▸ by simp
    simpa [orAndAndy] using hm
  have hchars := congrArg String.toList he
  rw [String.toList_append, String.toList_append] at hchars
  left
  rw [← String.toList_inj]
  generalize before.toList = chars at hchars ⊢
  rcases hpart with rfl | rfl <;> cases connector <;>
    rcases chars with _ | ⟨a, _ | ⟨b, _ | ⟨c, chars⟩⟩⟩ <;>
      simp [keyword, List.cons_eq_append_iff] at hchars ⊢

theorem parse_text_orAndAndy :
    orAndAndy.Spelled ∧ orAndAndy.HidesNoConnector ∧ orAndAndy.KeywordsRunOn ∧
      orAndAndy.text = "findDistinctByOrAndAndy" ∧ parse orAndAndy.text = .ok orAndAndy := by
  have hides := hidesNoConnector_of_keywordsRunOn orAndAndy orAndAndy_keywordsRunOn
  exact ⟨orAndAndy_spelled, hides, orAndAndy_keywordsRunOn, by decide +kernel,
    (parse_text orAndAndy orAndAndy_spelled).1 hides⟩

end Finder.MethodName
