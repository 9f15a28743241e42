import Finder.Proofs.Criteria.Search

namespace Finder

-- Each name but the last is that of a reference, and the next one is looked up on the entity that
-- it refers to. The last is found on `seen`.
inductive Declarations.Walks (declared : Declarations) :
    String → List String → OwnedProperty → String → Prop
  | last {entity name : String} {found : OwnedProperty}
      (visible : declared.property? entity name = some found) :
      Walks declared entity [name] found entity
  | step {entity target name seen : String} {path : List String} {reference found : OwnedProperty}
      (visible : declared.property? entity name = some reference)
      (refers : reference.property.type = .entity target)
      (rest : Walks declared target path found seen) : Walks declared entity (name :: path) found seen

-- The owner is the entity that declares the property, and need not be the one on which it is found.
structure Predicate.EndsAt (predicate : Predicate) (schema : Schema) (found : OwnedProperty)
    (seen : String) : Prop where
  type_eq : predicate.type = found.property.type
  owner_eq : predicate.owner = found.owner
  declared : ∃ owner ∈ schema.entities,
    predicate.owner = owner.name ∧ found.property ∈ owner.properties
  assignable : schema.isAssignable predicate.owner seen

namespace Declarations

variable {declared : Declarations}

theorem Leads.walks {entity : String} {pieces : List (List Char)} {found : List OwnedProperty}
    (h : declared.Leads entity pieces found) :
    ∃ leaf ∈ found.getLast?, ∃ seen,
      declared.Walks entity (found.map fun property => property.property.name) leaf seen := by
  induction h with
  | @last entity piece property names =>
      have hvisible := declared.property?_of_named? entity piece property
        ((names_iff entity piece property).mp names)
      exact ⟨property, rfl, entity, .last hvisible⟩
  | @step entity target piece pieces property later names refers rest ih =>
      have hvisible := declared.property?_of_named? entity piece property
        ((names_iff entity piece property).mp names)
      obtain ⟨leaf, hleaf, seen, hwalk⟩ := ih
      refine ⟨leaf, ?_, seen, .step hvisible refers hwalk⟩
      rw [List.getLast?_cons, Option.mem_def.mp hleaf]
      rfl

theorem Walks.visible_of_seen {entity seen : String} {path : List String} {found : OwnedProperty}
    (h : declared.Walks entity path found seen) :
    ∃ name, declared.property? seen name = some found := by
  induction h with
  | @last entity name found visible => exact ⟨name, visible⟩
  | step _ _ _ ih => exact ih

end Declarations

theorem exists_walk_of_resolvePart (schema : Schema) (entity : String) (part : List Char)
    (predicate : Predicate) (h : resolvePart schema.toDeclarations entity part = some predicate) :
    ∃ found seen, schema.Walks entity predicate.path found seen ∧
      predicate.EndsAt schema found seen := by
  have hchosen := chosen_resolvePart schema entity part
  rw [h] at hchosen
  cases hchosen with
  | greatest pieces found _ hadmissible hfollows _ =>
      obtain ⟨leaf, hleaf, seen, hwalk⟩ := hadmissible.leads.walks
      obtain ⟨leaf', hleaf', htype, howner⟩ := hfollows.leaf_eq
      obtain rfl : leaf = leaf' := Option.some.inj (hleaf.symm.trans hleaf')
      obtain ⟨name, hvisible⟩ := hwalk.visible_of_seen
      have hassignable := schema.isAssignable_of_property? seen name leaf hvisible
      obtain ⟨entity, hentity, hmem, heq⟩ := schema.contains_owner seen name leaf hvisible
      refine ⟨leaf, seen, hfollows.path_eq ▸ hwalk, htype, howner, ⟨entity, hentity, ?_, hmem⟩, ?_⟩
      · rw [howner, heq]
      · rw [howner]
        exact hassignable

-- Each part of a method name gives one predicate, in the order of the parts, and the path of the
-- predicate can be walked from the root to the property that it compares.
theorem predicates_walk_of_parse (schema : Schema) (root method : String) (criteria : Criteria)
    (h : Criteria.parse schema root method = .ok criteria) :
    ∃ name, MethodName.parse method = .ok name ∧
      List.Forall₂ (fun part predicate =>
          resolvePart schema.toDeclarations root part.toList = some predicate ∧
            ∃ found seen, schema.Walks root predicate.path found seen ∧
              predicate.EndsAt schema found seen)
        name.parts criteria.predicates := by
  obtain ⟨name, hname, hresolve⟩ := (Criteria.parse_eq_ok_iff _ _ _ _).mp h
  obtain ⟨_, predicates, hparts, rfl⟩ := (Criteria.resolve_eq_ok_iff _ _ _ _).mp hresolve
  refine ⟨name, hname, ?_⟩
  apply ((Criteria.resolveParts_eq_ok_iff _ _ _ _).mp hparts).imp
  intro part predicate hpart
  exact ⟨hpart, exists_walk_of_resolvePart schema root part.toList predicate hpart⟩

-- Keepers of pets, who are animals and know their keepers. The name of a pet is that of an animal.
def keepers : Schema where
  entities := [
    ⟨"Animal", none, "id", none, [⟨"id", .scalar .integer, none⟩,
      ⟨"nickName", .scalar .text, none⟩]⟩,
    ⟨"Keeper", none, "id", none, [⟨"id", .scalar .integer, none⟩, ⟨"pet", .entity "Pet", none⟩]⟩,
    ⟨"Pet", none, "id", some "Animal", [⟨"keeper", .entity "Keeper", none⟩]⟩]
  ascending := by decide +kernel
  named := by decide +kernel
  flawless := by decide +kernel

def petNickNameAndKeeper : Criteria where
  verb := .find
  subject := none
  predicates := [⟨["pet", "nickName"], .scalar .text, "Animal"⟩,
    ⟨["pet", "keeper", "pet"], .entity "Pet", "Keeper"⟩]
  connectors := [.and]

theorem parse_petNickNameAndKeeper :
    Criteria.parse keepers "Keeper" "findByPetNickNameAndPet_KeeperPet" =
      .ok petNickNameAndKeeper := by
  decide +kernel

theorem predicates_walk_of_parse_keepers :
    Criteria.parse keepers "Keeper" "findByPetNickNameAndPet_KeeperPet" =
        .ok petNickNameAndKeeper ∧
      ∃ name, MethodName.parse "findByPetNickNameAndPet_KeeperPet" = .ok name ∧
        List.Forall₂ (fun part predicate =>
            resolvePart keepers.toDeclarations "Keeper" part.toList = some predicate ∧
              ∃ found seen, keepers.Walks "Keeper" predicate.path found seen ∧
                predicate.EndsAt keepers found seen)
          name.parts petNickNameAndKeeper.predicates :=
  ⟨parse_petNickNameAndKeeper,
    predicates_walk_of_parse keepers "Keeper" _ _ parse_petNickNameAndKeeper⟩

end Finder
