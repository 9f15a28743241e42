import Finder.Proofs.Criteria.Paths
import Finder.Proofs.Query.Arguments

namespace Finder

-- The first and the last step are those of the path, and none that stands in for a missing one.
structure Criteria.Complete (criteria : Criteria) : Prop where
  balanced : criteria.connectors.length + 1 = criteria.predicates.length ∨
    criteria.predicates = [] ∧ criteria.connectors = []
  path_ne : ∀ predicate ∈ criteria.predicates, predicate.path ≠ []
  first_eq : ∀ predicate ∈ criteria.predicates, predicate.path.head? = some predicate.first
  leaf_eq : ∀ predicate ∈ criteria.predicates, predicate.path.getLast? = some predicate.leaf

theorem Predicate.head?_path (predicate : Predicate) (h : predicate.path ≠ []) :
    predicate.path.head? = some predicate.first := by
  obtain ⟨step, rest, hp⟩ := List.exists_cons_of_ne_nil h
  rw [first, hp]
  rfl

theorem Predicate.getLast?_path (predicate : Predicate) (h : predicate.path ≠ []) :
    predicate.path.getLast? = some predicate.leaf := by
  rw [leaf, List.getLastD_eq_getLast?, List.getLast?_eq_some_getLast h, Option.getD_some]

theorem Criteria.complete_of_resolve (schema : Schema) (root method : String) (name : MethodName)
    (criteria : Criteria) (hname : MethodName.parse method = .ok name)
    (hresolve : resolve schema root name = .ok criteria) : criteria.Complete := by
  obtain ⟨_, predicates, hparts, rfl⟩ := (resolve_eq_ok_iff _ _ _ _).mp hresolve
  have hresolved := (resolveParts_eq_ok_iff _ _ _ _).mp hparts
  have hlength : name.parts.length = predicates.length := hresolved.length_eq
  obtain ⟨rest, hreads⟩ := MethodName.reads_of_parse method name hname
  have hne : ∀ predicate ∈ predicates, predicate.path ≠ [] := by
    intro predicate hm
    obtain ⟨part, _, hpart⟩ := exists_left_of_forall₂ hresolved predicate hm
    exact path_ne_nil_of_resolvePart schema.toDeclarations root part.toList predicate hpart
  refine ⟨?_, hne, fun predicate hm => predicate.head?_path (hne predicate hm),
    fun predicate hm => predicate.getLast?_path (hne predicate hm)⟩
  cases hreads.balanced with
  | inl hbetween => exact .inl (hbetween.trans hlength)
  | inr hnone =>
      have hempty : predicates = [] := by
        rw [← List.length_eq_zero_iff, ← hlength, hnone.1, List.length_nil]
      exact .inr ⟨hempty, hnone.2⟩

namespace Query

-- Every binding finds the argument at its position, so that none is left out.
structure Takes {α : Type} (query : Query) (arguments : List α) : Prop where
  position_lt : ∀ binding ∈ query.bindings, binding.position < arguments.length
  bind_eq : ∃ bound, query.bind arguments = .ok bound ∧
    List.Forall₂ (fun binding pair => ∃ h : binding.position < arguments.length,
      pair = (binding.parameter.name, arguments[binding.position])) query.bindings bound

theorem position_lt_of_mem_bindingsFrom (position : Nat) (parameters : List Parameter)
    (binding : Binding) (h : binding ∈ bindingsFrom position parameters) :
    binding.position < position + parameters.length := by
  induction parameters generalizing position with
  | nil => cases h
  | cons parameter rest ih =>
      rw [List.length_cons]
      rcases List.mem_cons.mp h with rfl | h
      · show position < position + (rest.length + 1)
        omega
      · have hrest := ih (position + 1) h
        omega

theorem forall₂_arguments {α : Type} (bindings : List Binding) (arguments : List α)
    (h : ∀ binding ∈ bindings, binding.position < arguments.length) :
    List.Forall₂ (fun binding pair => ∃ h : binding.position < arguments.length,
        pair = (binding.parameter.name, arguments[binding.position])) bindings
      (bindings.filterMap fun binding =>
        arguments[binding.position]?.map fun argument => (binding.parameter.name, argument)) := by
  induction bindings with
  | nil => exact .nil
  | cons binding rest ih =>
      rw [List.forall_mem_cons] at h
      rw [List.filterMap_cons, List.getElem?_eq_getElem h.1, Option.map_some]
      exact .cons ⟨h.1, rfl⟩ (ih h.2)

theorem compileFor_eq_ok_iff (schema storage : Schema) (root method : String) (query : Query) :
    compileFor schema storage root method = .ok query ↔
      Compiled schema storage root method query := by
  rw [← derive_eq_ok_iff, compileFor]
  cases derive schema storage root method <;> simp [Except.mapError]

namespace Compiled

variable {schema storage : Schema} {root method : String} {query : Query}

-- A find has a binding for each of its parameters, and a count has none.
theorem position_lt (h : Compiled schema storage root method query) (binding : Binding)
    (hm : binding ∈ query.bindings) : binding.position < query.arity := by
  by_cases hverb : query.criteria.verb = .count
  · rw [(h.counts hverb).bindings_eq] at hm
    cases hm
  · rw [(h.find_eq hverb).2] at hm
    have hlt := position_lt_of_mem_bindingsFrom 0 query.parameters.entries binding hm
    rw [Nat.zero_add] at hlt
    exact hlt

theorem takes (h : Compiled schema storage root method query) {α : Type} (arguments : List α)
    (hlength : arguments.length = query.arity) : query.Takes arguments := by
  have hposition : ∀ binding ∈ query.bindings, binding.position < arguments.length := by
    intro binding hm
    rw [hlength]
    exact h.position_lt binding hm
  refine ⟨hposition, _, ?_, forall₂_arguments query.bindings arguments hposition⟩
  rw [bind, if_pos hlength]

theorem complete (h : Compiled schema storage root method query) : query.criteria.Complete := by
  obtain ⟨name, hname, _, hresolve⟩ := h.exists_name
  exact Criteria.complete_of_resolve schema root method name query.criteria hname hresolve

end Compiled

-- Whatever a method is, the criteria that are made of it are complete, also where a later stage of
-- the compilation turns them down. A call of a query is refused for the number of its arguments, or
-- takes them all.
theorem every_step_defined (schema storage : Schema) (root method : String) :
    (∀ criteria, Criteria.parse schema root method = .ok criteria → criteria.Complete) ∧
      ∀ query, compileFor schema storage root method = .ok query →
        query.criteria.Complete ∧
        (∀ {α : Type} (arguments : List α), arguments.length = query.arity →
          query.Takes arguments) ∧
        ∀ {α : Type} (shape : Shape) (database : Database) (mapper : Row → Option α)
          (arguments : List Value),
          query.call shape database mapper arguments =
              ⟨.error (.wrongArgumentCount query.method query.arity arguments.length), none⟩ ∨
            query.Takes arguments := by
  constructor
  · intro criteria hparse
    obtain ⟨name, hname, hresolve⟩ := (Criteria.parse_eq_ok_iff _ _ _ _).mp hparse
    exact Criteria.complete_of_resolve schema root method name criteria hname hresolve
  · intro query hcompile
    have hcompiled := (compileFor_eq_ok_iff _ _ _ _ _).mp hcompile
    refine ⟨hcompiled.complete, fun arguments => hcompiled.takes arguments, ?_⟩
    intro _ shape database mapper arguments
    by_cases hlength : arguments.length = query.arity
    · exact .inr (hcompiled.takes arguments hlength)
    · left
      rw [call, bind, if_neg hlength]

theorem every_step_defined_findByNameAndId :
    Criteria.parse keepers "Keeper" "findByPetNickNameAndPet_KeeperPet" =
        .ok petNickNameAndKeeper ∧
      petNickNameAndKeeper.Complete ∧
      compileFor owners owners "Owner" "findByNameAndId" = .ok findByNameAndId ∧
      findByNameAndId.criteria.Complete ∧
      findByNameAndId.Takes [Value.text "Ann", Value.integer 1] := by
  obtain ⟨hparsed, _⟩ := every_step_defined keepers keepers "Keeper"
    "findByPetNickNameAndPet_KeeperPet"
  obtain ⟨_, hcompiled⟩ := every_step_defined owners owners "Owner" "findByNameAndId"
  obtain ⟨hcomplete, htakes, _⟩ := hcompiled findByNameAndId compile_findByNameAndId
  exact ⟨parse_petNickNameAndKeeper, hparsed _ parse_petNickNameAndKeeper,
    compile_findByNameAndId, hcomplete, htakes [Value.text "Ann", Value.integer 1] rfl⟩

end Query

end Finder
