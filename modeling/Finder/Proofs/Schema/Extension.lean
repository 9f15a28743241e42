import Finder.Proofs.Schema.Ancestry

namespace Finder

namespace Declarations

-- A lineage that has come to its end is not made longer by further steps.
theorem lineageWithin_of_le {declared : Declarations} {entity : Entity} (steps more : Nat)
    (hle : steps ≤ more) (h : declared.endsWithin steps entity) :
    declared.lineageWithin more entity = declared.lineageWithin steps entity := by
  induction steps generalizing entity more with
  | zero =>
      have hnone : declared.supertype? entity = none := Option.isNone_iff_eq_none.mp h
      cases more with
      | zero => rfl
      | succ more => simp only [lineageWithin, hnone]
  | succ steps ih =>
      obtain ⟨more, rfl⟩ := Nat.exists_eq_add_of_lt hle
      rw [lineageWithin, lineageWithin]
      cases hs : declared.supertype? entity with
      | none => rfl
      | some supertype =>
          rw [endsWithin, hs] at h
          dsimp only
          rw [ih (steps + more) (by omega) h]

end Declarations

namespace Schema

-- Two schemas say the same of the entity of a name.
structure AgreesOn (schema other : Schema) (name : String) : Prop where
  property?_eq : ∀ property, other.property? name property = schema.property? name property
  properties?_eq : other.properties? name = schema.properties? name
  tableName?_eq : other.tableName? name = schema.tableName? name
  idColumn?_eq : other.idColumn? name = schema.idColumn? name
  isAssignable_eq : ∀ target, other.isAssignable target name = schema.isAssignable target name

section

variable {schema larger : Schema} (hpart : schema.entities ⊆ larger.entities)
include hpart

theorem entity?_of_part (name : String) (h : schema.contains name) :
    larger.entity? name = schema.entity? name := by
  obtain ⟨entity, hentity⟩ := (schema.contains_iff name).mp h
  obtain ⟨hmem, hname⟩ := schema.entity?_eq_some name entity hentity
  rw [hentity]
  exact (Declarations.entity?_eq_some_iff larger.names_nodup name entity).mpr ⟨hpart hmem, hname⟩

theorem supertype?_of_part (entity : Entity) (hmem : entity ∈ schema.entities) :
    larger.supertype? entity = schema.supertype? entity := by
  have hflaw := (schema.entity_flawless entity hmem).1
  rw [Declarations.entityFlaw?, Option.or_eq_none_iff] at hflaw
  have hknown := (Declarations.supertypeFlaw?_eq_none_iff _ entity).mp hflaw.2
  unfold Declarations.supertype?
  cases hs : entity.supertype with
  | none => rfl
  | some name => exact entity?_of_part hpart name (hknown name hs)

theorem lineageWithin_of_part (steps : Nat) (entity : Entity) (hmem : entity ∈ schema.entities) :
    larger.lineageWithin steps entity = schema.lineageWithin steps entity := by
  induction steps generalizing entity with
  | zero => rfl
  | succ steps ih =>
      rw [Declarations.lineageWithin, Declarations.lineageWithin, supertype?_of_part hpart entity hmem]
      cases hs : schema.supertype? entity with
      | none => rfl
      | some supertype =>
          dsimp only
          rw [ih supertype (mem_of_inherits entity supertype hs)]

-- The larger schema allows for more steps, but all lines end before.
theorem lineageOf_of_part (entity : Entity) (hmem : entity ∈ schema.entities) :
    larger.lineageOf entity = schema.lineageOf entity := by
  have hdistinct : schema.entities.Nodup := .of_map _ schema.names_nodup
  have hle : schema.entities.length ≤ larger.entities.length :=
    (hdistinct.subperm hpart).length_le
  have hends := endsWithin_of_mem entity hmem
  rw [Declarations.lineageOf, lineageWithin_of_part hpart _ entity hmem,
    Declarations.lineageWithin_of_le _ _ hle hends, Declarations.lineageOf]

theorem lineage?_of_part (name : String) (h : schema.contains name) :
    larger.lineage? name = schema.lineage? name := by
  rw [Declarations.lineage?, Declarations.lineage?, entity?_of_part hpart name h]
  obtain ⟨entity, hentity⟩ := (schema.contains_iff name).mp h
  have hmem := (schema.entity?_eq_some name entity hentity).1
  rw [hentity, Option.map_some, Option.map_some, lineageOf_of_part hpart entity hmem]

-- All that is asked of an entity is answered by its lineage.
theorem agreesOn_of_part (name : String) (h : schema.contains name) :
    schema.AgreesOn larger name := by
  have hentity := entity?_of_part hpart name h
  have hlineage := lineage?_of_part hpart name h
  have hproperty : ∀ property, larger.property? name property = schema.property? name property := by
    intro property
    rw [Declarations.property?, Declarations.property?, hlineage]
  constructor
  case property?_eq => exact hproperty
  case properties?_eq => rw [Declarations.properties?, Declarations.properties?, hlineage]
  case tableName?_eq => rw [Declarations.tableName?, Declarations.tableName?, hentity]
  case idColumn?_eq =>
    simp only [Declarations.idColumn?, hentity, hproperty]
  case isAssignable_eq =>
    intro target
    rw [Declarations.isAssignable, Declarations.isAssignable, hlineage]

end

end Schema

end Finder
