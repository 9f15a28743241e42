import Finder.Proofs.MethodName.Reading
import Finder.Proofs.Query.Stages

namespace Finder.Query

open Declarations

-- A part names a visible scalar property, in small letters at its start or, failing that, with only
-- the first letter made small.
structure NamesScalar (schema : Schema) (root part : String) (found : OwnedProperty) : Prop where
  plain : '_' ∉ part.toList
  visible : schema.property? root (String.ofList (decapitalize part.toList)) = some found ∨
    schema.property? root (String.ofList (decapitalize part.toList)) = none ∧
      schema.property? root (String.ofList (smallFirst part.toList)) = some found
  scalar : ∃ kind, found.property.type = .scalar kind

-- What the parts of a name that compiles stand for.
inductive Stands (schema : Schema) (root : String) (name : MethodName) : List OwnedProperty → Prop
  | one (part : String) (found : OwnedProperty) (parts : name.parts = [part])
      (names : NamesScalar schema root part found) : Stands schema root name [found]
  | two (part next : String) (found later : OwnedProperty) (parts : name.parts = [part, next])
      (connectors : name.connectors = [.and]) (names : NamesScalar schema root part found)
      (names_next : NamesScalar schema root next later)
      (differ : found.property.name ≠ later.property.name) : Stands schema root name [found, later]

structure Speaks (schema : Schema) (root method : String) (found : List OwnedProperty) : Prop where
  mapped : schema.contains root
  stands : ∃ name, MethodName.parse method = .ok name ∧ name.verb ∈ Verb.reading ∧
    Stands schema root name found

theorem namesScalar_of_resolvePart (schema : Schema) (root part : String) (predicate : Predicate)
    (h : resolvePart schema.toDeclarations root part.toList = some predicate)
    (hlength : predicate.path.length ≤ 1) (hscalar : ∃ kind, predicate.type = .scalar kind) :
    ∃ found, NamesScalar schema root part found ∧ predicate = .ofProperty found := by
  obtain ⟨_, hplain, found, hnamed, rfl⟩ := (resolvePart_short_iff _ _ _ _).mp ⟨h, hlength⟩
  exact ⟨found, ⟨hplain, (named?_eq_some_iff _ _ _ _).mp hnamed, hscalar⟩, rfl⟩

theorem resolvePart_of_namesScalar (schema : Schema) (root part : String) (found : OwnedProperty)
    (hne : part ≠ "") (h : NamesScalar schema root part found) :
    resolvePart schema.toDeclarations root part.toList = some (.ofProperty found) := by
  have hnil : part.toList ≠ [] := by simpa using hne
  exact ((resolvePart_short_iff _ _ _ _).mpr
    ⟨hnil, h.plain, found, (named?_eq_some_iff _ _ _ _).mpr h.visible, rfl⟩).1

-- What a part names is found again under its own name.
theorem property?_of_namesScalar (schema : Schema) (root part : String) (found : OwnedProperty)
    (h : NamesScalar schema root part found) :
    schema.property? root found.property.name = some found :=
  property?_of_named? _ root part.toList found ((named?_eq_some_iff _ _ _ _).mpr h.visible)

-- Predicates that the rules let pass are properties that the parts name as a whole: a rule that looks
-- at the length of paths keeps out whatever goes through a reference.
theorem exists_named (schema : Schema) (root : String) (parts : List String)
    (predicates : List Predicate)
    (hresolved : List.Forall₂ (fun part predicate =>
      resolvePart schema.toDeclarations root part.toList = some predicate) parts predicates)
    (hshort : ∀ predicate ∈ predicates, predicate.path.length ≤ 1)
    (hscalar : ∀ predicate ∈ predicates, ∃ kind, predicate.type = .scalar kind) :
    ∃ found, List.Forall₂ (NamesScalar schema root) parts found ∧
      predicates = found.map .ofProperty := by
  induction hresolved with
  | nil => exact ⟨[], .nil, rfl⟩
  | cons hfirst _ ih =>
      rw [List.forall_mem_cons] at hshort hscalar
      obtain ⟨property, hn, rfl⟩ :=
        namesScalar_of_resolvePart schema root _ _ hfirst hshort.1 hscalar.1
      obtain ⟨later, hl, rfl⟩ := ih hshort.2 hscalar.2
      exact ⟨property :: later, .cons hn hl, rfl⟩

theorem resolved_of_named (schema : Schema) (root : String) (parts : List String)
    (found : List OwnedProperty) (hnamed : List.Forall₂ (NamesScalar schema root) parts found)
    (hne : ∀ part ∈ parts, part ≠ "") :
    List.Forall₂ (fun part predicate =>
      resolvePart schema.toDeclarations root part.toList = some predicate)
        parts (found.map .ofProperty) := by
  induction hnamed with
  | nil => exact .nil
  | cons hfirst _ ih =>
      rw [List.forall_mem_cons] at hne
      exact .cons (resolvePart_of_namesScalar schema root _ _ hne.1 hfirst) (ih hne.2)

-- The rules on criteria, told of the properties that the parts name.
theorem stands_iff (schema : Schema) (root : String) (name : MethodName)
    (hbalanced : name.connectors.length + 1 = name.parts.length ∨
      name.parts = [] ∧ name.connectors = []) (found : List OwnedProperty) :
    Stands schema root name found ↔ List.Forall₂ (NamesScalar schema root) name.parts found ∧
      (∀ connector ∈ name.connectors, connector = .and) ∧
      (found.map fun property => property.property.name).Nodup ∧ found.length ≤ 2 ∧ found ≠ [] := by
  constructor
  · intro h
    cases h with
    | one part property hparts hn => simp_all
    | two part next property later hparts hone hn hn' hdiffer => simp_all
  · rintro ⟨hnamed, hand, hdiffer, harity, hsome⟩
    match found with
    | [] => exact absurd rfl hsome
    | [property] =>
        obtain ⟨part, _, hn, hnil, hparts⟩ := List.forall₂_cons_right_iff.mp hnamed
        rw [List.forall₂_nil_right_iff.mp hnil] at hparts
        exact .one part property hparts hn
    | [property, later] =>
        obtain ⟨part, _, hn, hrest, hparts⟩ := List.forall₂_cons_right_iff.mp hnamed
        obtain ⟨next, _, hn', hnil, rfl⟩ := List.forall₂_cons_right_iff.mp hrest
        rw [List.forall₂_nil_right_iff.mp hnil] at hparts
        obtain ⟨connector, hc⟩ : ∃ connector, name.connectors = [connector] := by
          rw [← List.length_eq_one_iff]
          simpa [hparts] using hbalanced
        have hone : name.connectors = [.and] := by rw [hc, hand connector (by simp [hc])]
        exact .two part next property later hparts hone hn hn' (by simpa using hdiffer)
    | _ :: _ :: _ :: _ =>
        simp only [List.length_cons] at harity
        omega

theorem visible_of_stands (schema : Schema) (root : String) (name : MethodName)
    (hbalanced : name.connectors.length + 1 = name.parts.length ∨
      name.parts = [] ∧ name.connectors = []) (found : List OwnedProperty)
    (h : Stands schema root name found) (property : OwnedProperty) (hm : property ∈ found) :
    schema.property? root property.property.name = some property ∧
      ∃ kind, property.property.type = .scalar kind := by
  obtain ⟨hnamed, _⟩ := (stands_iff schema root name hbalanced found).mp h
  obtain ⟨part, _, hn⟩ := exists_left_of_forall₂ hnamed property hm
  exact ⟨property?_of_namesScalar schema root part property hn, hn.scalar⟩

theorem Speaks.visible_of_mem {schema : Schema} {root method : String} {found : List OwnedProperty}
    (h : Speaks schema root method found) (property : OwnedProperty) (hm : property ∈ found) :
    schema.property? root property.property.name = some property ∧
      ∃ kind, property.property.type = .scalar kind := by
  obtain ⟨name, hname, _, hstands⟩ := h.stands
  obtain ⟨rest, hreads⟩ := MethodName.reads_of_parse method name hname
  exact visible_of_stands schema root name hreads.balanced found hstands property hm

theorem speaks_of_compiled (schema storage : Schema) (root method : String) (query : Query)
    (h : Compiled schema storage root method query) :
    ∃ found, Speaks schema root method found ∧
      query.criteria.predicates = found.map .ofProperty := by
  obtain ⟨name, hname, hverb, hcriteria⟩ := h.exists_name
  obtain ⟨hmapped, predicates, hparts, hc⟩ := (Criteria.resolve_eq_ok_iff _ _ _ _).mp hcriteria
  obtain ⟨rest, hreads⟩ := MethodName.reads_of_parse method name hname
  obtain ⟨hand, hboundary, hscalar, harity, hsome⟩ :=
    (query.criteria.flaw?_eq_none_iff _ _).mp h.rules
  have hdiffer := h.leaves_nodup
  rw [hc] at hand hboundary hscalar harity hsome hdiffer ⊢
  obtain ⟨found, hnamed, rfl⟩ := exists_named schema root name.parts predicates
    ((Criteria.resolveParts_eq_ok_iff _ _ _ _).mp hparts)
    (fun predicate hm => (hboundary predicate hm).1) hscalar
  rw [List.map_map] at hdiffer
  refine ⟨found, ⟨hmapped, name, hname, hverb, ?_⟩, rfl⟩
  rw [stands_iff schema root name hreads.balanced]
  exact ⟨hnamed, hand, hdiffer, by simpa using harity, by simpa using hsome⟩

-- Each predicate of a query compares a scalar property that is visible on the root under its name.
theorem exists_compared (schema storage : Schema) (root method : String) (query : Query)
    (h : Compiled schema storage root method query) :
    ∃ found : List OwnedProperty, query.criteria.predicates = found.map .ofProperty ∧
      ∀ property ∈ found, schema.property? root property.property.name = some property ∧
        ∃ kind, property.property.type = .scalar kind := by
  obtain ⟨found, hs, hp⟩ := speaks_of_compiled schema storage root method query h
  exact ⟨found, hp, hs.visible_of_mem⟩

theorem exists_plan (schema : Schema) (root : String) (verb : Verb) (parameters : Parameters)
    (hmapped : schema.contains root)
    (hnamed : ∀ parameter ∈ parameters.entries, ∃ found kind,
      schema.property? root parameter.name = some found ∧ found.property.type = .scalar kind) :
    ∃ statement bindings, plan schema root verb parameters = .ok (statement, bindings) := by
  obtain ⟨table, idColumn, properties, ht, hi, hp⟩ := schema.exists_names root hmapped
  simp only [plan_eq_ok_iff]
  by_cases hv : verb = .count
  · have hc := (Statement.countAll_eq_ok_iff schema root (.count table)).mpr ⟨table, ht, rfl⟩
    exact ⟨.count table, [], .inl ⟨hv, hc, rfl⟩⟩
  · obtain ⟨conditions, hc⟩ := Statement.exists_conditions schema.toDeclarations root table
      parameters.entries hnamed
    exact ⟨_, _, .inr ⟨hv, (Statement.find_eq_ok_iff _ _ _ _).mpr
      ⟨table, idColumn, properties, conditions, ht, hi, hp, hc, rfl⟩, rfl⟩⟩

-- What the rules let pass has a statement: the look-up by the name of a property finds the property
-- again that the part was resolved to.
theorem exists_plan_of_rules (schema : Schema) (root : String) (name : MethodName)
    (criteria : Criteria) (parameters : Parameters) (verb : Verb)
    (hcriteria : Criteria.resolve schema root name = .ok criteria)
    (hrules : criteria.flaw? schema root = none)
    (hparameters : Parameters.ofCriteria criteria = .ok parameters) :
    ∃ statement bindings, plan schema root verb parameters = .ok (statement, bindings) := by
  obtain ⟨hmapped, predicates, hparts, hc⟩ := (Criteria.resolve_eq_ok_iff _ _ _ _).mp hcriteria
  obtain ⟨_, hboundary, hscalar, _, _⟩ := (criteria.flaw?_eq_none_iff _ _).mp hrules
  obtain ⟨_, hentries⟩ := (Parameters.ofCriteria_eq_ok_iff _ _).mp hparameters
  rw [hc] at hboundary hscalar hentries
  obtain ⟨found, hnamed, rfl⟩ := exists_named schema root name.parts predicates
    ((Criteria.resolveParts_eq_ok_iff _ _ _ _).mp hparts)
    (fun predicate hm => (hboundary predicate hm).1) hscalar
  refine exists_plan schema root verb parameters hmapped ?_
  rw [hentries, List.map_map]
  intro parameter hm
  obtain ⟨property, hp, rfl⟩ := List.mem_map.mp hm
  obtain ⟨part, _, hn⟩ := exists_left_of_forall₂ hnamed property hp
  obtain ⟨kind, hk⟩ := hn.scalar
  exact ⟨property, kind, property?_of_namesScalar schema root part property hn, hk⟩

-- No stage turns down what speaks the language. The root owns what it sees, and the statement looks
-- up again what was found before.
theorem exists_query_of_speaks (schema : Schema) (root method : String)
    (found : List OwnedProperty) (h : Speaks schema root method found) :
    ∃ query, compile schema root method = .ok query ∧
      query.criteria.predicates = found.map .ofProperty := by
  obtain ⟨name, hname, hverb, hstands⟩ := h.stands
  obtain ⟨rest, hreads⟩ := MethodName.reads_of_parse method name hname
  obtain ⟨hnamed, hand, hdiffer, harity, hsome⟩ :=
    (stands_iff schema root name hreads.balanced found).mp hstands
  have hvisible := visible_of_stands schema root name hreads.balanced found hstands
  let criteria : Criteria :=
    ⟨Verb.ofKeyword name.verb, name.subject, found.map .ofProperty, name.connectors⟩
  have hresolve : Criteria.resolve schema root name = .ok criteria :=
    (Criteria.resolve_eq_ok_iff _ _ _ _).mpr ⟨h.mapped, found.map .ofProperty,
      (Criteria.resolveParts_eq_ok_iff _ _ _ _).mpr
        (resolved_of_named schema root name.parts found hnamed hreads.part_ne), rfl⟩
  have hrules : criteria.flaw? schema root = none := by
    refine (criteria.flaw?_eq_none_iff _ _).mpr ⟨hand, ?_, ?_, by simpa [criteria] using harity,
      by simpa [criteria] using hsome⟩
    · intro predicate hm
      obtain ⟨property, hp, rfl⟩ := List.mem_map.mp hm
      exact ⟨by simp [Predicate.ofProperty],
        schema.isAssignable_of_property? root _ property (hvisible property hp).1⟩
    · intro predicate hm
      obtain ⟨property, hp, rfl⟩ := List.mem_map.mp hm
      exact (hvisible property hp).2
  have hparameters : Parameters.ofCriteria criteria =
      .ok ⟨criteria.predicates.map Parameters.ofPredicate⟩ := by
    refine (Parameters.ofCriteria_eq_ok_iff _ _).mpr ⟨?_, rfl⟩
    rw [List.map_map]
    exact hdiffer
  have hscalars : ∀ parameter ∈ criteria.predicates.map Parameters.ofPredicate, ∃ found kind,
      schema.property? root parameter.name = some found ∧ found.property.type = .scalar kind := by
    rw [List.map_map]
    intro parameter hm
    obtain ⟨property, hp, rfl⟩ := List.mem_map.mp hm
    obtain ⟨hv, kind, hk⟩ := hvisible property hp
    exact ⟨property, kind, hv, hk⟩
  obtain ⟨statement, bindings, hplan⟩ := exists_plan schema root criteria.verb
    ⟨criteria.predicates.map Parameters.ofPredicate⟩ h.mapped hscalars
  exact ⟨⟨method, root, criteria, _, statement, bindings⟩, (compile_eq_ok_iff _ _ _ _).mpr
    ⟨⟨name, hname, hverb, hresolve⟩, hrules, hparameters, hplan, rfl, rfl⟩, rfl⟩

-- A method compiles where it speaks the language, and its predicates are the properties that its
-- parts name, under the entity that declares each of them.
theorem compile_language (schema : Schema) (root method : String) :
    ((∃ query, compile schema root method = .ok query) ↔
        ∃ found, Speaks schema root method found) ∧
      ∀ query found, compile schema root method = .ok query → Speaks schema root method found →
        query.criteria.predicates =
            found.map (fun property =>
              ⟨[property.property.name], property.property.type, property.owner⟩) ∧
          ∀ property ∈ found, ∃ owner ∈ schema.entities,
            property.owner = owner.name ∧ property.property ∈ owner.properties := by
  have hback (found : List OwnedProperty) := exists_query_of_speaks schema root method found
  refine ⟨⟨?_, ?_⟩, ?_⟩
  · rintro ⟨query, hq⟩
    obtain ⟨found, hs, _⟩ := speaks_of_compiled _ _ _ _ query ((compile_eq_ok_iff _ _ _ _).mp hq)
    exact ⟨found, hs⟩
  · rintro ⟨found, hs⟩
    obtain ⟨query, hq, _⟩ := hback found hs
    exact ⟨query, hq⟩
  · intro query found hq hs
    obtain ⟨same, hsame, hp⟩ := hback found hs
    obtain rfl : same = query := Except.ok.inj (hsame.symm.trans hq)
    refine ⟨hp, ?_⟩
    intro property hm
    obtain ⟨name, hname, _, hstands⟩ := hs.stands
    obtain ⟨rest, hreads⟩ := MethodName.reads_of_parse method name hname
    have hv := (visible_of_stands schema root name hreads.balanced found hstands property hm).1
    obtain ⟨owner, ho, hmem, heq⟩ := schema.contains_owner root _ property hv
    exact ⟨owner, ho, heq, hmem⟩

end Finder.Query
