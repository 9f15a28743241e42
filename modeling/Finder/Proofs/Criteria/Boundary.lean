import Finder.Proofs.Criteria.Resolution
import Finder.Proofs.Criteria.Rules
import Finder.Proofs.Schema.Listing

namespace Finder

namespace Predicate

-- A predicate on a property of the aggregate: its path is the name of the property, which belongs to
-- the root or to an entity above.
structure Within (predicate : Predicate) (schema : Schema) (root : String) : Prop where
  direct : predicate.path.length = 1
  owned : ∃ lower upper, schema.entity? root = some lower ∧
    schema.entity? predicate.owner = some upper ∧
      Relation.ReflTransGen schema.Inherits lower upper

-- Whom a path outside the aggregate is said to belong to. A path through a reference belongs to the
-- entity that is referred to, where the root sees the reference at all; all else belongs to who declares
-- the last step.
inductive Blames (predicate : Predicate) (schema : Schema) (root : String) : String → Prop
  | reference (reference : OwnedProperty) (target : String) (hpath : 1 < predicate.path.length)
      (hvisible : schema.property? root predicate.first = some reference)
      (htarget : reference.property.type = .entity target) : Blames predicate schema root target
  | unseen (hpath : 1 < predicate.path.length)
      (h : ∀ reference target, schema.property? root predicate.first = some reference →
        reference.property.type ≠ .entity target) : Blames predicate schema root predicate.owner
  | foreign (hpath : predicate.path.length = 1) : Blames predicate schema root predicate.owner

variable {schema : Schema} {predicate : Predicate}

theorem within_iff (root : String) :
    predicate.Within schema root ↔
      predicate.path.length = 1 ∧ schema.isAssignable predicate.owner root := by
  rw [Schema.isAssignable_iff]
  exact ⟨fun h => ⟨h.direct, h.owned⟩, fun h => ⟨h.1, h.2⟩⟩

-- What belongs to an aggregate belongs to all that inherit from its root.
theorem Within.below {upper lower : String} (h : predicate.Within schema upper)
    (hassignable : schema.isAssignable upper lower) : predicate.Within schema lower where
  direct := h.direct
  owned := by
    obtain ⟨high, owner, hhigh, howner, hup⟩ := h.owned
    obtain ⟨low, high', hlow, hhigh', hreaches⟩ := (Schema.isAssignable_iff _ _).mp hassignable
    obtain rfl := Option.some.inj (hhigh.symm.trans hhigh')
    exact ⟨low, owner, hlow, howner, hreaches.trans hup⟩

theorem exists_blamed (predicate : Predicate) (schema : Schema) (root : String)
    (hne : predicate.path ≠ []) : ∃ owner, predicate.Blames schema root owner := by
  have hlength := List.length_pos_iff.mpr hne
  by_cases hpath : predicate.path.length = 1
  · exact ⟨predicate.owner, .foreign hpath⟩
  by_cases hseen : ∃ reference target, schema.property? root predicate.first = some reference ∧
      reference.property.type = .entity target
  · obtain ⟨reference, target, hvisible, htarget⟩ := hseen
    exact ⟨target, .reference reference target (by omega) hvisible htarget⟩
  · refine ⟨predicate.owner, .unseen (by omega) fun reference target hvisible htarget => ?_⟩
    exact hseen ⟨reference, target, hvisible, htarget⟩

end Predicate

namespace Criteria

variable {schema : Schema}

theorem predicateFlaw?_eq_none_iff_within (root : String) (predicate : Predicate)
    (hne : predicate.path ≠ []) :
    predicateFlaw? schema root predicate = none ↔ predicate.Within schema root := by
  have hlength := List.length_pos_iff.mpr hne
  rw [predicateFlaw?_eq_none_iff, Predicate.within_iff]
  exact and_congr_left' (by omega)

theorem predicateFlaw?_of_blames (root : String) (predicate : Predicate) (owner : String)
    (hblames : predicate.Blames schema root owner) (hout : ¬predicate.Within schema root) :
    predicateFlaw? schema root predicate =
      some (.outsideAggregate predicate.dotted owner root) := by
  cases hblames with
  | reference reference target hpath hvisible htarget =>
      exact predicateFlaw?_of_reference schema root predicate reference owner hpath hvisible htarget
  | unseen hpath h =>
      have hnone : (schema.property? root predicate.first).bind
          (fun found => found.property.type.target?) = none := by
        refine Option.bind_eq_none_iff.mpr fun reference hvisible => ?_
        refine Option.eq_none_iff_forall_ne_some.mpr fun target htarget => ?_
        exact h reference target hvisible ((PropertyType.target?_eq_some_iff _ _).mp htarget)
      rw [predicateFlaw?, if_pos hpath, hnone]
      rfl
  | foreign hpath =>
      have hforeign : ¬schema.isAssignable predicate.owner root := fun hassignable =>
        hout ((Predicate.within_iff root).mpr ⟨hpath, hassignable⟩)
      rw [predicateFlaw?, if_neg (by omega), if_neg hforeign]

theorem predicateFlaw?_eq_some_iff (root : String) (predicate : Predicate)
    (hne : predicate.path ≠ []) (violation : Violation) :
    predicateFlaw? schema root predicate = some violation ↔
      ¬predicate.Within schema root ∧ ∃ owner, predicate.Blames schema root owner ∧
        violation = .outsideAggregate predicate.dotted owner root := by
  constructor
  · intro h
    have hout : ¬predicate.Within schema root := by
      rw [← predicateFlaw?_eq_none_iff_within root predicate hne, h]
      exact Option.some_ne_none violation
    obtain ⟨owner, hblames⟩ := predicate.exists_blamed schema root hne
    have hflaw := predicateFlaw?_of_blames root predicate owner hblames hout
    exact ⟨hout, owner, hblames, Option.some.inj (h.symm.trans hflaw)⟩
  · rintro ⟨hout, owner, hblames, rfl⟩
    exact predicateFlaw?_of_blames root predicate owner hblames hout

-- The part of a method name that a predicate was resolved from.
theorem exists_part_of_parse (root method : String) (criteria : Criteria)
    (h : parse schema root method = .ok criteria) :
    ∀ predicate ∈ criteria.predicates, ∃ part : String,
      resolvePart schema.toDeclarations root part.toList = some predicate := by
  intro predicate hmem
  obtain ⟨name, _, hresolve⟩ := (parse_eq_ok_iff _ _ _ _).mp h
  obtain ⟨_, predicates, hparts, rfl⟩ := (resolve_eq_ok_iff _ _ _ _).mp hresolve
  obtain ⟨part, _, hpart⟩ :=
    exists_left_of_forall₂ ((resolveParts_eq_ok_iff _ _ _ _).mp hparts) predicate hmem
  exact ⟨part, hpart⟩

-- What the check tells of predicates that were parsed, whichever entity they are checked for.
structure Bounded (criteria : Criteria) (schema : Schema) (checking : String) : Prop where
  passes_iff : criteria.boundaryFlaw? schema checking = none ↔
    ∀ predicate ∈ criteria.predicates, predicate.Within schema checking
  visible : criteria.boundaryFlaw? schema checking = none → ∀ predicate ∈ criteria.predicates,
    ∃ name, predicate.path = [name] ∧ (schema.property? checking name).isSome
  passes_below : criteria.boundaryFlaw? schema checking = none →
    ∀ lower, schema.isAssignable checking lower → criteria.boundaryFlaw? schema lower = none
  fails_iff : ∀ violation, criteria.boundaryFlaw? schema checking = some violation ↔
    ∃ predicate owner,
      IsFirst (fun other => ¬other.Within schema checking) criteria.predicates predicate ∧
        predicate.Blames schema checking owner ∧
          violation = .outsideAggregate predicate.dotted owner checking

section

variable {root method : String} {criteria : Criteria}
  (h : parse schema root method = .ok criteria)
include h

theorem path_ne_nil_of_parse (predicate : Predicate) (hmem : predicate ∈ criteria.predicates) :
    predicate.path ≠ [] := by
  obtain ⟨part, hpart⟩ := exists_part_of_parse root method criteria h predicate hmem
  exact path_ne_nil_of_resolvePart _ _ _ _ hpart

theorem boundaryFlaw?_eq_none_iff_within (checking : String) :
    criteria.boundaryFlaw? schema checking = none ↔
      ∀ predicate ∈ criteria.predicates, predicate.Within schema checking := by
  rw [boundaryFlaw?, List.findSome?_eq_none_iff]
  exact forall₂_congr fun predicate hmem =>
    predicateFlaw?_eq_none_iff_within checking predicate (path_ne_nil_of_parse h predicate hmem)

-- The entity that declares the property is above the one that is checked for, so that the name is
-- seen there, though it may be that of another property.
theorem exists_visible_of_within (checking : String) (predicate : Predicate)
    (hmem : predicate ∈ criteria.predicates) (hwithin : predicate.Within schema checking) :
    ∃ name, predicate.path = [name] ∧ (schema.property? checking name).isSome := by
  obtain ⟨part, hpart⟩ := exists_part_of_parse root method criteria h predicate hmem
  obtain ⟨_, _, found, hnamed, rfl⟩ :=
    (resolvePart_short_iff _ _ _ _).mp ⟨hpart, hwithin.direct.le⟩
  have hfound := schema.property?_of_named? root part.toList found hnamed
  obtain ⟨declaring, hdeclaring, hproperty, hname⟩ := schema.contains_owner root _ found hfound
  obtain ⟨lower, upper, hlower, hupper, hreaches⟩ := hwithin.owned
  have hsame := (Declarations.entity?_eq_some_iff schema.names_nodup found.owner declaring).mpr
    ⟨hdeclaring, hname.symm⟩
  obtain rfl := Option.some.inj (hsame.symm.trans hupper)
  exact ⟨found.property.name, rfl, (Schema.isSome_property?_iff _ _).mpr
    ⟨lower, declaring, hlower, hreaches, found.property, hproperty, rfl⟩⟩

theorem boundaryFlaw?_eq_some_iff_blames (checking : String) (violation : Violation) :
    criteria.boundaryFlaw? schema checking = some violation ↔ ∃ predicate owner,
      IsFirst (fun other => ¬other.Within schema checking) criteria.predicates predicate ∧
        predicate.Blames schema checking owner ∧
          violation = .outsideAggregate predicate.dotted owner checking := by
  have hflaw (predicate : Predicate) (hmem : predicate ∈ criteria.predicates) :
      predicateFlaw? schema checking predicate = none ↔ predicate.Within schema checking :=
    predicateFlaw?_eq_none_iff_within checking predicate (path_ne_nil_of_parse h predicate hmem)
  rw [boundaryFlaw?, findSome?_eq_some_iff_isFirst]
  constructor
  · rintro ⟨predicate, hfirst, hsome⟩
    have hne := path_ne_nil_of_parse h predicate hfirst.mem.1
    obtain ⟨_, owner, hblames, hviolation⟩ :=
      (predicateFlaw?_eq_some_iff checking predicate hne violation).mp hsome
    exact ⟨predicate, owner, hfirst.congr fun other hmem => not_congr (hflaw other hmem), hblames,
      hviolation⟩
  · rintro ⟨predicate, owner, hfirst, hblames, rfl⟩
    exact ⟨predicate, hfirst.congr fun other hmem => not_congr (hflaw other hmem).symm,
      predicateFlaw?_of_blames checking predicate owner hblames hfirst.mem.2⟩

theorem boundaryFlaw?_eq_none_iff_direct :
    criteria.boundaryFlaw? schema root = none ↔
      ∀ predicate ∈ criteria.predicates, predicate.path.length = 1 := by
  rw [boundaryFlaw?_eq_none_iff_within h]
  refine forall₂_congr fun predicate hmem => ⟨fun hwithin => hwithin.direct, fun hdirect => ?_⟩
  obtain ⟨part, hpart⟩ := exists_part_of_parse root method criteria h predicate hmem
  exact (Predicate.within_iff root).mpr
    ⟨hdirect, isAssignable_of_short _ root part.toList predicate hpart hdirect.le⟩

end

-- Predicates that were parsed on one root may be checked for any other. On their own root only paths
-- through references leave the aggregate.
theorem boundary_of_parse (schema : Schema) (root method : String) (criteria : Criteria)
    (h : parse schema root method = .ok criteria) :
    (∀ checking, criteria.Bounded schema checking) ∧
      (criteria.boundaryFlaw? schema root = none ↔
        ∀ predicate ∈ criteria.predicates, predicate.path.length = 1) := by
  refine ⟨fun checking => ?_, boundaryFlaw?_eq_none_iff_direct h⟩
  have hpasses (entity : String) := boundaryFlaw?_eq_none_iff_within h entity
  constructor
  case passes_iff => exact hpasses checking
  case visible =>
    intro hnone predicate hmem
    exact exists_visible_of_within h checking predicate hmem ((hpasses checking).mp hnone predicate hmem)
  case passes_below =>
    intro hnone lower hassignable
    refine (hpasses lower).mpr fun predicate hmem => ?_
    exact ((hpasses checking).mp hnone predicate hmem).below hassignable
  case fails_iff => exact boundaryFlaw?_eq_some_iff_blames h checking

-- Of a dog: the tag that it has as a pet, its breed, and the tag of the pet that it is named after.
def tagBreedAndNameTag : Criteria where
  verb := .find
  subject := none
  predicates := [⟨["tag"], .scalar .integer, "Pet"⟩, ⟨["breed"], .scalar .text, "Dog"⟩,
    ⟨["name", "tag"], .scalar .integer, "Pet"⟩]
  connectors := [.and, .and]

-- A pet has a tag and no breed. A dog has both, and only the path through its name leaves it.
example : tagBreedAndNameTag.boundaryFlaw? Schema.kennel "Pet" =
      some (.outsideAggregate "breed" "Dog" "Pet") ∧
    tagBreedAndNameTag.boundaryFlaw? Schema.kennel "Dog" =
      some (.outsideAggregate "name.tag" "Pet" "Dog") := by
  decide +kernel

theorem boundary_of_parse_dog :
    parse Schema.kennel "Dog" "findByTagAndBreedAndName_Tag" = .ok tagBreedAndNameTag ∧
      (∀ checking, tagBreedAndNameTag.Bounded Schema.kennel checking) ∧
      (tagBreedAndNameTag.boundaryFlaw? Schema.kennel "Dog" = none ↔
        ∀ predicate ∈ tagBreedAndNameTag.predicates, predicate.path.length = 1) := by
  have hparse : parse Schema.kennel "Dog" "findByTagAndBreedAndName_Tag" =
      .ok tagBreedAndNameTag := by
    decide +kernel
  exact ⟨hparse, boundary_of_parse Schema.kennel "Dog" _ _ hparse⟩

end Criteria

end Finder
