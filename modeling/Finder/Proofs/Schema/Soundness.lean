import Finder.Proofs.Lists
import Finder.Schema

namespace Finder

theorem PropertyType.target?_eq_some_iff (type : PropertyType) (target : String) :
    type.target? = some target ↔ type = .entity target := by
  cases type <;> simp [target?]

namespace Declarations

theorem propertyFlaw?_cons_eq_none_iff (declared : Declarations) (entity : String)
    (earlier : List String) (property : Property) (rest : List Property) :
    declared.propertyFlaw? entity earlier (property :: rest) = none ↔
      Text.isBlank property.name = false ∧ property.name ∉ earlier ∧
        (∀ target ∈ property.type.target?, declared.contains target) ∧
        declared.propertyFlaw? entity (property.name :: earlier) rest = none := by
  rw [propertyFlaw?]
  by_cases hblank : Text.isBlank property.name
  · simp [hblank]
  by_cases hearlier : property.name ∈ earlier
  · simp [hblank, hearlier]
  -- Both kinds of properties go on with the same rest.
  cases ht : property.type.target? with
  | none => simp [hblank, hearlier]
  | some target => by_cases hc : declared.contains target <;> simp [hblank, hearlier, hc]

theorem propertyFlaw?_eq_none_iff (declared : Declarations) (entity : String)
    (earlier : List String) (properties : List Property) :
    declared.propertyFlaw? entity earlier properties = none ↔
      (∀ property ∈ properties, property.name ∉ earlier) ∧
        (properties.map Property.name).Nodup ∧
        ∀ property ∈ properties, Text.isBlank property.name = false ∧
          ∀ target ∈ property.type.target?, declared.contains target := by
  induction properties generalizing earlier with
  | nil => simp [propertyFlaw?]
  | cons property rest ih =>
      rw [propertyFlaw?_cons_eq_none_iff, ih, List.map_cons, List.nodup_cons, List.forall_mem_cons,
        List.forall_mem_cons]
      constructor
      · rintro ⟨hblank, hearlier, htargets, hnew, hnodup, hsound⟩
        have hrest : ∀ other ∈ rest, other.name ∉ earlier := fun other ho he =>
          hnew other ho (List.mem_cons_of_mem _ he)
        have hfresh : property.name ∉ rest.map Property.name := by
          intro hm
          obtain ⟨other, ho, he⟩ := List.mem_map.mp hm
          exact hnew other ho (by simp [he])
        exact ⟨⟨hearlier, hrest⟩, ⟨hfresh, hnodup⟩, ⟨hblank, htargets⟩, hsound⟩
      · rintro ⟨⟨hearlier, hrest⟩, ⟨hfresh, hnodup⟩, ⟨hblank, htargets⟩, hsound⟩
        refine ⟨hblank, hearlier, htargets, ?_, hnodup, hsound⟩
        intro other ho he
        rcases List.mem_cons.mp he with he | he
        · exact hfresh (List.mem_map.mpr ⟨other, ho, he⟩)
        · exact hrest other ho he

theorem entity?_eq_some (declared : Declarations) (name : String) (entity : Entity)
    (h : declared.entity? name = some entity) : entity ∈ declared.entities ∧ entity.name = name :=
  ⟨List.mem_of_find?_eq_some h, by simpa using List.find?_some h⟩

theorem contains_iff (declared : Declarations) (name : String) :
    declared.contains name ↔ ∃ entity, declared.entity? name = some entity :=
  Option.isSome_iff_exists

end Declarations

namespace Schema

-- None of the checks on an entity found a flaw.
theorem entity_flawless (schema : Schema) (entity : Entity) (h : entity ∈ schema.entities) :
    schema.entityFlaw? entity = none ∧ schema.lineageFlaw? entity = none ∧
      schema.idFlaw? entity = none := by
  have hf := schema.flawless
  simp only [Declarations.flaw?, Option.or_eq_none_iff, List.findSome?_eq_none_iff] at hf
  exact ⟨hf.1 entity h, hf.2.1 entity h, hf.2.2 entity h⟩

theorem names_nodup (schema : Schema) : (schema.entities.map Entity.name).Nodup :=
  List.pairwise_map.mpr (schema.ascending.imp fun hlt => String.ne_of_lt hlt)

theorem properties_sound (schema : Schema) (entity : Entity) (h : entity ∈ schema.entities) :
    (entity.properties.map Property.name).Nodup ∧
      ∀ property ∈ entity.properties, Text.isBlank property.name = false ∧
        ∀ target ∈ property.type.target?, schema.contains target := by
  have hf := (schema.entity_flawless entity h).1
  rw [Declarations.entityFlaw?, Option.or_eq_none_iff] at hf
  exact ((Declarations.propertyFlaw?_eq_none_iff _ _ _ _).mp hf.1).2

-- The property that identifies a row is visible on each entity.
theorem exists_id (schema : Schema) (entity : Entity) (h : entity ∈ schema.entities) :
    ∃ found, schema.property? entity.name entity.id = some found := by
  have hf := (schema.entity_flawless entity h).2.2
  rw [Declarations.idFlaw?] at hf
  split at hf
  · next hs => exact Option.isSome_iff_exists.mp hs
  · cases hf

end Schema

end Finder
