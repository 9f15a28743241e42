import Finder.Proofs.Query.Heads

namespace Finder

open Text Connector MethodName

-- The word for a property in a method name.
def capitalized (name : String) : String :=
  String.ofList (name.toList.modifyHead Char.toUpper)

-- A name of letters and digits that begins with a small ASCII letter. No keyword in it ends it, or
-- is followed by what could open a part.
structure OrdinaryName (name : String) : Prop where
  chars : ∀ c ∈ name.toList, isAlphanumeric c
  small : ∃ c ∈ name.toList.head?, c.isLower
  keywords : ∀ before connector after, name = before ++ keyword connector ++ after →
    after ≠ "" ∧ ¬∃ c ∈ after.toList.head?, isUpper c ∨ 128 ≤ c.toNat

-- A scalar property that the root sees under an ordinary name. A word that begins with two capitals
-- could be a name itself, and then it must not be one.
structure Ordinary (schema : Schema) (root : String) (found : OwnedProperty) : Prop where
  visible : schema.property? root found.property.name = some found
  scalar : ∃ kind, found.property.type = .scalar kind
  name : OrdinaryName found.property.name
  literal : (∃ c ∈ found.property.name.toList[1]?, isUpper c) →
    schema.property? root (capitalized found.property.name) = none

namespace OrdinaryName

variable {name : String}

-- It is enough to look behind each keyword that begins a tail of the name.
theorem of_tails (chars : ∀ c ∈ name.toList, isAlphanumeric c)
    (small : ∃ c ∈ name.toList.head?, c.isLower)
    (keywords : ∀ connector, ∀ tail ∈ name.toList.tails, letters connector <+: tail →
      tail.drop (letters connector).length ≠ [] ∧
        opensPart (tail.drop (letters connector).length) = false) : OrdinaryName name where
  chars := chars
  small := small
  keywords := by
    intro before connector after hname
    have htail : letters connector ++ after.toList ∈ name.toList.tails :=
      (List.mem_tails _ _).mpr ⟨before.toList, by simp [hname, letters]⟩
    obtain ⟨hne, hopens⟩ := keywords connector _ htail (List.prefix_append _ _)
    rw [List.drop_left] at hne hopens
    rw [← opensPart_iff, hopens]
    exact ⟨by simpa using hne, Bool.false_ne_true⟩

theorem exists_letters (h : OrdinaryName name) :
    ∃ c rest, name.toList = c :: rest ∧ c.isLower ∧
      (capitalized name).toList = c.toUpper :: rest := by
  obtain ⟨c, hc, hlower⟩ := h.small
  obtain ⟨rest, hname⟩ := List.head?_eq_some_iff.mp hc
  exact ⟨c, rest, hname, hlower, by simp [capitalized, hname]⟩

theorem chars_capitalized (h : OrdinaryName name) :
    ∀ c ∈ (capitalized name).toList, isAlphanumeric c := by
  obtain ⟨c, rest, hname, hlower, hword⟩ := h.exists_letters
  have hrest := h.chars
  rw [hname, List.forall_mem_cons] at hrest
  rw [hword, List.forall_mem_cons]
  exact ⟨(capital_of_isLower c hlower).2.1, hrest.2⟩

theorem opens_capitalized (h : OrdinaryName name) :
    ∃ c ∈ (capitalized name).toList.head?, isUpper c := by
  obtain ⟨c, rest, _, hlower, hword⟩ := h.exists_letters
  exact ⟨c.toUpper, by rw [hword]; rfl, (capital_of_isLower c hlower).1⟩

-- A keyword behind the capital stands in the name too. One that begins with it opens the word.
theorem keywords_capitalized (h : OrdinaryName name) (before : String) (connector : Connector)
    (after : String) (hword : capitalized name = before ++ keyword connector ++ after)
    (hbefore : before ≠ "") :
    after ≠ "" ∧ ¬∃ c ∈ after.toList.head?, isUpper c ∨ 128 ≤ c.toNat := by
  obtain ⟨c, rest, hname, _, hcapital⟩ := h.exists_letters
  have hne : before.toList ≠ [] := by simpa using hbefore
  obtain ⟨d, start, hstart⟩ := List.exists_cons_of_ne_nil hne
  have hrest : rest = start ++ (keyword connector).toList ++ after.toList := by
    have htext := congrArg String.toList hword
    rw [hcapital, String.toList_append, String.toList_append, hstart] at htext
    exact (List.cons.inj htext).2
  refine h.keywords (String.ofList (c :: start)) connector after ?_
  rw [← String.toList_inj]
  simp [hname, hrest]

theorem smallFirst_capitalized (h : OrdinaryName name) :
    smallFirst (capitalized name).toList = name.toList := by
  obtain ⟨c, rest, hname, hlower, hword⟩ := h.exists_letters
  rw [hword, hname, smallFirst, (capital_of_isLower c hlower).2.2]
  rfl

-- A word that begins with two capitals is taken for an abbreviation. Any other gives the name back.
theorem decapitalize_capitalized (h : OrdinaryName name) :
    decapitalize (capitalized name).toList = name.toList ∨
      (∃ c ∈ name.toList[1]?, isUpper c) ∧
        decapitalize (capitalized name).toList = (capitalized name).toList := by
  have hsmall := h.smallFirst_capitalized
  obtain ⟨c, rest, hname, hlower, hword⟩ := h.exists_letters
  rw [hword] at hsmall ⊢
  cases rest with
  | nil => exact .inl hsmall
  | cons d rest =>
      by_cases hd : isUpper d
      · have hcapital := (capital_of_isLower c hlower).1
        exact .inr ⟨⟨d, by simp [hname], hd⟩, by simp [decapitalize, hcapital, hd]⟩
      · left
        rw [← hsmall]
        simp [decapitalize, hd]

end OrdinaryName

theorem Ordinary.namesScalar {schema : Schema} {root : String} {found : OwnedProperty}
    (h : Ordinary schema root found) :
    Query.NamesScalar schema root (capitalized found.property.name) found where
  plain := by
    intro hm
    have hc := h.name.chars_capitalized '_' hm
    revert hc
    decide +kernel
  visible := by
    have hvisible := h.visible
    rw [← String.ofList_toList (s := found.property.name)] at hvisible
    rcases h.name.decapitalize_capitalized with hname | ⟨hsecond, hword⟩
    · left
      rw [hname]
      exact hvisible
    · right
      rw [hword, h.name.smallFirst_capitalized, String.ofList_toList]
      exact ⟨h.literal hsecond, hvisible⟩
  scalar := h.scalar

namespace MethodName

-- What is written by the rules of names under the head of a query is read as it was written.
theorem Spelled.parse_eq {method : MethodName} (h : method.Spelled) (hc : method.HidesNoConnector)
    (hverb : method.verb ∈ Verb.reading) : parse method.text = .ok method := by
  have hparts := h.cutParts_condition hc
  have hchars : (method.condition.toList.find? fun c => !isNameChar c) = none := by
    simpa [condition] using h.isNameChar_condition
  have hread := parse_headed method.verb method.subject method.condition ⟨hverb, h.qualifies⟩
  rw [hchars, condition, String.toList_ofList, hparts] at hread
  simpa [headed, text, condition, Function.comp_def] using hread

-- The question for some properties by their names.
def asking (found : List OwnedProperty) : MethodName where
  verb := "find"
  subject := none
  parts := found.map fun property => capitalized property.property.name
  connectors := List.replicate (found.length - 1) .and

theorem text_asking_one (found : OwnedProperty) :
    (asking [found]).text = "findBy" ++ capitalized found.property.name := by
  rw [← String.toList_inj]
  simp [text, condition, asking, joinParts]

theorem text_asking_two (found later : OwnedProperty) :
    (asking [found, later]).text =
      "findBy" ++ capitalized found.property.name ++ "And" ++ capitalized later.property.name := by
  rw [← String.toList_inj]
  simp [text, condition, asking, joinParts]

variable {found : List OwnedProperty}

theorem reading_asking : (asking found).verb ∈ Verb.reading :=
  List.mem_cons_self

theorem asking_spelled (hsome : found ≠ [])
    (h : ∀ property ∈ found, OrdinaryName property.property.name) : (asking found).Spelled where
  verb_ne := String.toList_eq_nil_iff.not.mp (lower_of_reading _ reading_asking).1
  verb_lower := (lower_of_reading _ reading_asking).2
  subject_upper := by simp [asking]
  subject_plain := by simp [asking]
  subject_chars := by simp [asking]
  balanced := by
    have hpos := List.length_pos_iff.mpr hsome
    simp only [asking, List.length_map, List.length_replicate]
    omega
  part_chars := by
    intro part hp c hc
    obtain ⟨property, hm, rfl⟩ := List.mem_map.mp hp
    exact .inl ((h property hm).chars_capitalized c hc)
  part_ne := by
    intro part hp he
    obtain ⟨property, hm, rfl⟩ := List.mem_map.mp hp
    obtain ⟨c, hc, _⟩ := (h property hm).opens_capitalized
    simp [he] at hc
  part_open := by
    intro part hp
    obtain ⟨property, hm, rfl⟩ := List.mem_map.mp (List.mem_of_mem_tail hp)
    obtain ⟨c, hc, hu⟩ := (h property hm).opens_capitalized
    exact ⟨c, hc, .inl hu⟩

theorem asking_hidesNoConnector (h : ∀ property ∈ found, OrdinaryName property.property.name) :
    (asking found).HidesNoConnector := by
  intro earlier part later hp before connector after hword hbefore
  have hpart : part ∈ (asking found).parts := by
    rw [hp]
    simp
  obtain ⟨property, hm, rfl⟩ := List.mem_map.mp hpart
  obtain ⟨hne, hopens⟩ := (h property hm).keywords_capitalized before connector after hword hbefore
  exact ⟨hopens, fun he => absurd he hne⟩

theorem parse_asking (hsome : found ≠ [])
    (h : ∀ property ∈ found, OrdinaryName property.property.name) :
    parse (asking found).text = .ok (asking found) :=
  (asking_spelled hsome h).parse_eq (asking_hidesNoConnector h) reading_asking

end MethodName

namespace Query

-- A query compares two properties at most, and no property twice.
structure Askable (schema : Schema) (root : String) (found : List OwnedProperty) : Prop where
  nonempty : found ≠ []
  few : found.length ≤ 2
  ordinary : ∀ property ∈ found, Ordinary schema root property
  differ : (found.map fun property => property.property.name).Nodup

namespace Askable

variable {schema : Schema} {root : String} {found : List OwnedProperty}

theorem parse_eq (h : Askable schema root found) :
    MethodName.parse (asking found).text = .ok (asking found) :=
  parse_asking h.nonempty fun property hp => (h.ordinary property hp).name

theorem speaks (h : Askable schema root found) : Speaks schema root (asking found).text found := by
  have hnamed : List.Forall₂ (NamesScalar schema root) (asking found).parts found := by
    rw [asking, List.forall₂_map_left_iff, List.forall₂_same]
    exact fun property hp => (h.ordinary property hp).namesScalar
  obtain ⟨rest, hreads⟩ := MethodName.reads_of_parse _ _ h.parse_eq
  obtain ⟨first, hf⟩ := List.exists_mem_of_ne_nil found h.nonempty
  exact {
    mapped := schema.contains_of_property? root _ first (h.ordinary first hf).visible
    stands := ⟨asking found, h.parse_eq, reading_asking,
      (stands_iff schema root (asking found) hreads.balanced found).mpr
        ⟨hnamed, fun _ => List.eq_of_mem_replicate, h.differ, h.few, h.nonempty⟩⟩ }

theorem exists_query (h : Askable schema root found) :
    ∃ query, compile schema root (asking found).text = .ok query ∧
      query.criteria.predicates = found.map .ofProperty ∧
      query.parameters.entries =
        found.map (fun property => ⟨property.property.name, property.property.type⟩) ∧
      query.criteria.connectors = (asking found).connectors := by
  obtain ⟨query, hq, hpredicates⟩ := exists_query_of_speaks _ _ _ found h.speaks
  have hcompiled := (compile_eq_ok_iff _ _ _ _).mp hq
  refine ⟨query, hq, hpredicates, ?_, ?_⟩
  · rw [hcompiled.entries_eq, hpredicates, List.map_map]
    rfl
  · obtain ⟨name, hname, _, hcriteria⟩ := hcompiled.exists_name
    obtain rfl := Except.ok.inj (h.parse_eq.symm.trans hname)
    obtain ⟨_, _, _, hc⟩ := (Criteria.resolve_eq_ok_iff _ _ _ _).mp hcriteria
    rw [hc]

end Askable

-- Whoever knows the name of a property can ask for it, and for any two of them together. Neither is
-- their own name cut at a keyword, nor is another path found first.
theorem compile_ordinary (schema : Schema) (root : String) (found : OwnedProperty)
    (h : Ordinary schema root found) :
    (∃ query, compile schema root ("findBy" ++ capitalized found.property.name) = .ok query ∧
      query.criteria.predicates = [.ofProperty found] ∧
      query.parameters.entries = [⟨found.property.name, found.property.type⟩] ∧
      query.criteria.connectors = []) ∧
    ∀ later, Ordinary schema root later → found.property.name ≠ later.property.name →
      ∃ query, compile schema root ("findBy" ++ capitalized found.property.name ++ "And" ++
          capitalized later.property.name) = .ok query ∧
        query.criteria.predicates = [.ofProperty found, .ofProperty later] ∧
        query.parameters.entries = [⟨found.property.name, found.property.type⟩,
          ⟨later.property.name, later.property.type⟩] ∧
        query.criteria.connectors = [.and] := by
  constructor
  · have hone : Askable schema root [found] :=
      ⟨by simp, by simp, by simpa using h, by simp⟩
    rw [← text_asking_one]
    exact hone.exists_query
  · intro later hlater hdiffer
    have htwo : Askable schema root [found, later] :=
      ⟨by simp, by simp, by simpa using ⟨h, hlater⟩, by simpa using hdiffer⟩
    rw [← text_asking_two]
    exact htwo.exists_query

-- Plots on sheets, with an axis of their own beside those of their `x`.
def plots : Schema where
  entities := [
    ⟨"Axes", none, "id", none, [⟨"id", .scalar .integer, none⟩, ⟨"axis", .scalar .text, none⟩]⟩,
    ⟨"Plot", none, "id", some "Sheet", [⟨"x", .entity "Axes", none⟩,
      ⟨"xAxis", .scalar .real, none⟩]⟩,
    ⟨"Sheet", none, "id", none, [⟨"id", .scalar .integer, none⟩, ⟨"xOrigin", .scalar .real, none⟩]⟩]
  ascending := by decide +kernel
  named := by decide +kernel
  flawless := by decide +kernel

def xAxis : OwnedProperty :=
  ⟨⟨"xAxis", .scalar .real, none⟩, "Plot"⟩

def xOrigin : OwnedProperty :=
  ⟨⟨"xOrigin", .scalar .real, none⟩, "Sheet"⟩

theorem ordinary_of_mem : ∀ found ∈ [xAxis, xOrigin], Ordinary plots "Plot" found := by
  have hchecks : ∀ found ∈ [xAxis, xOrigin],
      plots.property? "Plot" found.property.name = some found ∧
      found.property.type = .scalar .real ∧
      found.property.name.toList.all isAlphanumeric ∧
      found.property.name.toList.head? = some 'x' ∧
      plots.property? "Plot" (capitalized found.property.name) = none := by
    decide +kernel
  have hkeywords (connector : Connector) : ∀ found ∈ [xAxis, xOrigin],
      ∀ tail ∈ found.property.name.toList.tails, letters connector <+: tail →
        tail.drop (letters connector).length ≠ [] ∧
          opensPart (tail.drop (letters connector).length) = false := by
    cases connector <;> decide +kernel
  intro found hm
  obtain ⟨hvisible, hscalar, hchars, hsmall, hliteral⟩ := hchecks found hm
  exact ⟨hvisible, ⟨.real, hscalar⟩, .of_tails (by simpa using hchars) ⟨'x', hsmall, by decide⟩
    fun connector => hkeywords connector found hm, fun _ => hliteral⟩

theorem compile_ordinary_plots :
    Ordinary plots "Plot" xAxis ∧ Ordinary plots "Plot" xOrigin ∧
      (∃ query, compile plots "Plot" "findByXAxis" = .ok query ∧
        query.criteria.predicates = [⟨["xAxis"], .scalar .real, "Plot"⟩]) ∧
      ∃ query, compile plots "Plot" "findByXAxisAndXOrigin" = .ok query ∧
        query.parameters.entries = [⟨"xAxis", .scalar .real⟩, ⟨"xOrigin", .scalar .real⟩] ∧
        query.criteria.connectors = [.and] := by
  have haxis := ordinary_of_mem xAxis (by simp)
  have horigin := ordinary_of_mem xOrigin (by simp)
  obtain ⟨⟨query, hq, hpredicates, _⟩, htwo⟩ := compile_ordinary plots "Plot" xAxis haxis
  obtain ⟨query', hq', _, hentries, hconnectors⟩ := htwo xOrigin horigin (by decide)
  have hone : "findBy" ++ capitalized xAxis.property.name = "findByXAxis" := by decide +kernel
  have hboth : "findBy" ++ capitalized xAxis.property.name ++ "And" ++
      capitalized xOrigin.property.name = "findByXAxisAndXOrigin" := by decide +kernel
  rw [hone] at hq
  rw [hboth] at hq'
  exact ⟨haxis, horigin, ⟨query, hq, hpredicates⟩, query', hq', hentries, hconnectors⟩

end Query

end Finder
