import Finder.Proofs.Lists
import Finder.Proofs.MethodName.Subject

namespace Finder.MethodName

open Text Connector

def condition (method : MethodName) : String :=
  String.ofList (joinParts (method.parts.map String.toList) method.connectors)

def text (method : MethodName) : String :=
  method.verb ++ method.subject.getD "" ++ "By" ++ method.condition

-- Whether conditions can follow: what stands behind the verb begins with a capital and has a `By`.
def Conditioned (rest : String) : Prop :=
  (∃ c ∈ rest.toList.head?, isUpperLetter c) ∧ separator <:+: rest.toList

def Malformed (name : String) : Prop :=
  (∃ c ∈ name.toList, isAlphanumeric c = false ∧ c ≠ '_') ∨
    ¬∃ c ∈ name.toList.head?, isLowerLetter c

-- A verb takes all small letters that the name begins with.
structure Opens (name verb rest : String) : Prop where
  name_eq : name = verb ++ rest
  verb_ne : verb ≠ ""
  verb_lower : ∀ c ∈ verb.toList, isLowerLetter c
  verb_longest : ∀ c ∈ rest.toList.head?, isLowerLetter c = false

-- What is read from a name is all that it holds, and the cuts stand where they have to. `rest` is
-- what follows the verb.
structure Reads (name : String) (method : MethodName) (rest : String) : Prop
    extends Opens name method.verb rest where
  conditioned : Conditioned rest → rest = method.subject.getD "" ++ "By" ++ method.condition
  first_separator : Conditioned rest → ∀ before after,
    rest.toList = before ++ separator ++ after →
      (method.subject.getD "").toList.length ≤ before.length
  parts_nil : Conditioned rest → (method.parts = [] ↔ method.condition = "")
  subject_none : Conditioned rest → (method.subject = none ↔ separator <+: rest.toList)
  unconditioned : ¬Conditioned rest →
    rest = method.subject.getD "" ∧ method.parts = [] ∧ method.connectors = []
  subject_ne : method.subject ≠ some ""
  balanced : method.connectors.length + 1 = method.parts.length ∨
    method.parts = [] ∧ method.connectors = []
  part_ne : ∀ part ∈ method.parts, part ≠ ""
  part_open : ∀ part ∈ method.parts.tail, ∃ c ∈ part.toList.head?, isUpper c ∨ 128 ≤ c.toNat

theorem opensPart_iff (text : List Char) :
    opensPart text ↔ ∃ c ∈ text.head?, isUpper c ∨ 128 ≤ c.toNat := by
  cases text <;> simp [opensPart]

-- The parts of a text that may be empty.
def cutParts (text : List Char) : List (List Char) × List Connector :=
  if text = [] then ([], []) else splitParts [] text

theorem joinParts_cutParts (text : List Char) :
    joinParts (cutParts text).1 (cutParts text).2 = text := by
  unfold cutParts
  split
  · next h => rw [h]; rfl
  · simpa using joinParts_splitParts [] text

theorem length_cutParts (text : List Char) (h : text ≠ []) :
    (cutParts text).2.length + 1 = (cutParts text).1.length := by
  unfold cutParts
  rw [if_neg h]
  exact length_splitParts [] text

theorem mem_cutParts_ne_nil (text : List Char) : ∀ part ∈ (cutParts text).1, part ≠ [] := by
  unfold cutParts
  split
  · simp
  · next h => exact ne_nil_of_mem_splitParts [] text (by simpa using h)

theorem opensPart_of_mem_cutParts (text : List Char) :
    ∀ part ∈ (cutParts text).1.tail, opensPart part := by
  unfold cutParts
  split
  · simp
  · exact opensPart_of_mem_tail [] text

theorem cutParts_eq_nil (text : List Char) : (cutParts text).1 = [] ↔ text = [] := by
  constructor
  · intro h
    have := joinParts_cutParts text
    rw [h] at this
    exact this.symm
  · rintro rfl
    rfl

-- What is read behind a verb.
def afterVerb (verb rest : List Char) : MethodName :=
  match cutSubject rest with
  | none => ⟨String.ofList verb, ofNonempty rest, [], []⟩
  | some (subject, text) =>
      ⟨String.ofList verb, subject, (cutParts text).1.map String.ofList, (cutParts text).2⟩

theorem parse_append (name : String) (verb rest : List Char) (hname : name.toList = verb ++ rest)
    (hv : verb ≠ []) (hl : ∀ c ∈ verb, isLowerLetter c)
    (hr : ∀ c ∈ rest.head?, isLowerLetter c = false) (hn : ∀ c ∈ rest, isNameChar c) :
    parse name = .ok (afterVerb verb rest) := by
  have hfind : (verb ++ rest).find? (fun c => !isNameChar c) = none := by
    simp only [List.find?_eq_none, List.mem_append, Bool.not_eq_true', Bool.not_eq_false]
    rintro c (hc | hc)
    · simp [isNameChar, isAlphanumeric_of_isLowerLetter c (hl c hc)]
    · exact hn c hc
  have htake : (verb ++ rest).takeWhile isLowerLetter = verb := by
    rw [List.takeWhile_append_of_pos hl]
    cases rest with
    | nil => simp
    | cons c rest => simp [hr c rfl]
  have hdrop : (verb ++ rest).dropWhile isLowerLetter = rest := by
    rw [List.dropWhile_append_of_pos hl]
    cases rest with
    | nil => rfl
    | cons c rest => simp [hr c rfl]
  obtain ⟨first, verb, rfl⟩ := List.exists_cons_of_ne_nil hv
  simp only [parse, hname, hfind, htake, hdrop, afterVerb]
  cases cutSubject rest with
  | none => rfl
  | some cut =>
      obtain ⟨subject, text⟩ := cut
      cases text <;> rfl

-- A name that is not malformed is a verb and a rest that begins with no small letter.
theorem exists_verb (name : String) (h : ¬Malformed name) :
    ∃ verb rest, name.toList = verb ++ rest ∧ verb ≠ [] ∧ (∀ c ∈ verb, isLowerLetter c) ∧
      (∀ c ∈ rest.head?, isLowerLetter c = false) ∧ ∀ c ∈ rest, isNameChar c := by
  unfold Malformed at h
  push Not at h
  obtain ⟨hchars, first, hfirst, hlower⟩ := h
  refine ⟨name.toList.takeWhile isLowerLetter, name.toList.dropWhile isLowerLetter,
    List.takeWhile_append_dropWhile.symm, ?_, fun c hc => List.mem_takeWhile_imp hc, ?_, ?_⟩
  · cases hn : name.toList with
    | nil => simp [hn] at hfirst
    | cons c rest =>
        obtain rfl : c = first := by simpa [hn] using hfirst
        simp [hlower]
  · intro c hc
    have := List.head?_dropWhile_not isLowerLetter name.toList
    rw [Option.mem_def.mp hc] at this
    simpa using this
  · intro c hc
    have := hchars c ((List.dropWhile_sublist isLowerLetter).mem hc)
    simp only [isNameChar, Bool.or_eq_true, beq_iff_eq]
    by_cases ha : isAlphanumeric c
    · exact .inl ha
    · exact .inr (this (by simpa using ha))

theorem malformed_iff (name : String) :
    Malformed name ↔ (∃ c ∈ name.toList, isNameChar c = false) ∨
      ¬∃ c ∈ name.toList.head?, isLowerLetter c := by
  simp only [Malformed, isNameChar, Bool.or_eq_false_iff, beq_eq_false_iff_ne]

-- The first character that no name has is reported, and the start is looked at where there is none.
theorem parse_eq_error_iff (name : String) (violation : Violation) :
    parse name = .error violation ↔
      (∃ c, IsFirst (fun other => isNameChar other = false) name.toList c ∧
        violation = .unexpectedCharacter c) ∨
      (∀ c ∈ name.toList, isNameChar c) ∧ (¬∃ c ∈ name.toList.head?, isLowerLetter c) ∧
        violation = .missingVerb := by
  cases hf : name.toList.find? fun c => !isNameChar c with
  | some found =>
      have hfirst : IsFirst (fun other => isNameChar other = false) name.toList found := by
        simpa using (find?_eq_some_iff_isFirst _ _ _).mp hf
      have hnot : ¬∀ c ∈ name.toList, isNameChar c := by
        push Not
        exact ⟨found, hfirst.mem.1, by simp [hfirst.mem.2]⟩
      simp only [parse, hf, Except.error.injEq, hnot, false_and, or_false]
      constructor
      · rintro rfl
        exact ⟨found, hfirst, rfl⟩
      · rintro ⟨c, hc, rfl⟩
        rw [hc.unique hfirst]
  | none =>
      have hall : ∀ c ∈ name.toList, isNameChar c := by simpa using hf
      have hnone : ¬∃ c, IsFirst (fun other => isNameChar other = false) name.toList c ∧
          violation = .unexpectedCharacter c := by
        rintro ⟨c, hc, _⟩
        exact Bool.noConfusion ((hall c hc.mem.1).symm.trans hc.mem.2)
      rw [or_iff_right hnone, and_iff_right hall]
      by_cases hl : ∃ c ∈ name.toList.head?, isLowerLetter c
      · have hsound : ¬Malformed name := by
          rw [malformed_iff, not_or, not_not]
          exact ⟨by simpa using hall, hl⟩
        obtain ⟨verb, rest, hname, hv, hlower, hr, hn⟩ := exists_verb name hsound
        rw [parse_append name verb rest hname hv hlower hr hn]
        exact iff_of_false (by simp) fun h => h.1 hl
      · have htake : name.toList.takeWhile isLowerLetter = [] := by
          cases hn : name.toList with
          | nil => rfl
          | cons c rest =>
              have hc : isLowerLetter c = false := by
                rw [Bool.eq_false_iff]
                exact fun hc => hl ⟨c, by simp [hn], hc⟩
              simp [hc]
        rw [and_iff_right hl, eq_comm (a := violation)]
        simp only [parse, hf, htake, Except.error.injEq]

theorem parse_of_malformed (name : String) (h : Malformed name) :
    ∃ violation, parse name = .error violation := by
  simp only [parse_eq_error_iff]
  by_cases hbad : ∃ c ∈ name.toList, isNameChar c = false
  · obtain ⟨c, hc, hf⟩ := hbad
    obtain ⟨found, hfound⟩ := exists_isFirst (p := fun other => isNameChar other = false) c hc hf
    exact ⟨.unexpectedCharacter found, .inl ⟨found, hfound, rfl⟩⟩
  · have hstart := ((malformed_iff name).mp h).resolve_left hbad
    push Not at hbad
    exact ⟨.missingVerb, .inr ⟨by simpa using hbad, hstart, rfl⟩⟩

theorem opens_append (name : String) (verb rest : List Char) (hname : name.toList = verb ++ rest)
    (hv : verb ≠ []) (hl : ∀ c ∈ verb, isLowerLetter c)
    (hr : ∀ c ∈ rest.head?, isLowerLetter c = false) :
    Opens name (String.ofList verb) (String.ofList rest) where
  name_eq := by simp [String.ext_iff, hname]
  verb_ne := by simpa using hv
  verb_lower := by simpa using hl
  verb_longest := by simpa using hr

theorem reads_conditioned (name : String) (verb rest : List Char)
    (ho : Opens name (String.ofList verb) (String.ofList rest))
    (hu : ∃ c ∈ rest.head?, isUpperLetter c) (hs : separator <:+: rest) :
    Reads name (afterVerb verb rest) (String.ofList rest) := by
  obtain ⟨before, after, hcut, hsubject⟩ := cutSubject_eq_some rest hu hs
  have hrest := cutAtBy_eq_some rest before after hcut
  have hm : afterVerb verb rest = ⟨String.ofList verb, ofNonempty before,
      (cutParts after).1.map String.ofList, (cutParts after).2⟩ := by
    simp only [afterVerb, hsubject]
  rw [hm]
  have hc : Conditioned (String.ofList rest) := by simpa [Conditioned] using ⟨hu, hs⟩
  exact {
    toOpens := ho
    conditioned := by
      intro _
      simp [String.ext_iff, condition, joinParts_cutParts, ofNonempty_getD, hrest, separator]
    first_separator := by
      intro _ earlier later he
      rw [ofNonempty_getD]
      exact cutAtBy_first rest before after hcut earlier later (by simpa using he)
    parts_nil := by
      intro _
      simp [condition, joinParts_cutParts, String.ext_iff, cutParts_eq_nil]
    subject_none := by
      intro _
      rw [ofNonempty_eq_none, String.toList_ofList]
      constructor
      · rintro rfl
        exact ⟨after, hrest.symm⟩
      · rintro ⟨later, he⟩
        have := cutAtBy_first rest before after hcut [] later he.symm
        simpa using this
    unconditioned := fun h => absurd hc h
    subject_ne := ofNonempty_ne before
    balanced := by
      by_cases ha : after = []
      · subst ha
        exact .inr ⟨rfl, rfl⟩
      · left
        simpa using length_cutParts after ha
    part_ne := by
      intro part hp
      obtain ⟨chars, hchars, rfl⟩ := List.mem_map.mp hp
      simpa using mem_cutParts_ne_nil after chars hchars
    part_open := by
      intro part hp
      rw [← List.map_tail] at hp
      obtain ⟨chars, hchars, rfl⟩ := List.mem_map.mp hp
      rw [String.toList_ofList, ← opensPart_iff]
      exact opensPart_of_mem_cutParts after chars hchars }

theorem reads_unconditioned (name : String) (verb rest : List Char)
    (ho : Opens name (String.ofList verb) (String.ofList rest))
    (hn : ¬((∃ c ∈ rest.head?, isUpperLetter c) ∧ separator <:+: rest)) :
    Reads name (afterVerb verb rest) (String.ofList rest) := by
  have hm : afterVerb verb rest = ⟨String.ofList verb, ofNonempty rest, [], []⟩ := by
    simp only [afterVerb, cutSubject_eq_none rest hn]
  rw [hm]
  have hc : ¬Conditioned (String.ofList rest) := by simpa [Conditioned] using hn
  exact {
    toOpens := ho
    conditioned := fun h => absurd h hc
    first_separator := fun h => absurd h hc
    parts_nil := fun h => absurd h hc
    subject_none := fun h => absurd h hc
    unconditioned := by simp [String.ext_iff, ofNonempty_getD]
    subject_ne := ofNonempty_ne rest
    balanced := .inr ⟨rfl, rfl⟩
    part_ne := by simp
    part_open := by simp }

theorem reads_of_parse (name : String) (method : MethodName) (h : parse name = .ok method) :
    ∃ rest, Reads name method rest := by
  by_cases hm : Malformed name
  · obtain ⟨violation, hv⟩ := parse_of_malformed name hm
    simp [hv] at h
  · obtain ⟨verb, rest, hname, hv, hl, hr, hn⟩ := exists_verb name hm
    have ho := opens_append name verb rest hname hv hl hr
    obtain rfl : afterVerb verb rest = method := by
      simpa [parse_append name verb rest hname hv hl hr hn] using h
    by_cases hc : (∃ c ∈ rest.head?, isUpperLetter c) ∧ separator <:+: rest
    · exact ⟨_, reads_conditioned name verb rest ho hc.1 hc.2⟩
    · exact ⟨_, reads_unconditioned name verb rest ho hc⟩

-- Parts are made of the characters of the name.
theorem Reads.mem_of_mem_part {name : String} {method : MethodName} {rest : String}
    (h : Reads name method rest) (part : String) (hp : part ∈ method.parts) (c : Char)
    (hc : c ∈ part.toList) : c ∈ name.toList := by
  have hsome : method.parts ≠ [] := List.ne_nil_of_mem hp
  have hconditioned : Conditioned rest := by
    by_contra hnot
    exact hsome (h.unconditioned hnot).2.1
  have hlength := h.balanced.resolve_right fun hnone => hsome hnone.1
  have hjoined := mem_joinParts_of_mem (method.parts.map String.toList) method.connectors
    (by simpa using hlength) part.toList (List.mem_map_of_mem hp) c hc
  rw [h.name_eq, h.conditioned hconditioned, condition]
  simp only [String.toList_append, String.toList_ofList, List.mem_append]
  exact .inr (.inr hjoined)

theorem parse_fails_iff (name : String) :
    (∃ violation, parse name = .error violation) ↔ Malformed name := by
  by_cases h : Malformed name
  · exact iff_of_true (parse_of_malformed name h) h
  · obtain ⟨verb, rest, hname, hv, hl, hr, hn⟩ := exists_verb name h
    exact iff_of_false (by simp [parse_append name verb rest hname hv hl hr hn]) h

-- Names fail for their letters only, and what is read from any other name is all of it.
theorem parse_lossless (name : String) :
    ((∃ violation, parse name = .error violation) ↔ Malformed name) ∧
      ∀ method, parse name = .ok method → ∃ rest, Reads name method rest :=
  ⟨parse_fails_iff name, reads_of_parse name⟩

end Finder.MethodName
