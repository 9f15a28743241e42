import Finder.Proofs.Schema.Lineage

namespace Finder

-- Among these entities, the second is one that the first names as its supertype.
def InheritsAmong (entities : List Entity) (first second : Entity) : Prop :=
  second ∈ entities ∧ first.supertype = some second.name

-- Declarations in which all names are given, tell things apart and lead somewhere, and in which an
-- entity has its identifier, be it from far up.
structure WellFormed (entities : List Entity) : Prop where
  named : ∀ entity ∈ entities, Text.isBlank entity.name = false
  distinct : (entities.map Entity.name).Nodup
  properties_named : ∀ entity ∈ entities, ∀ property ∈ entity.properties,
    Text.isBlank property.name = false
  properties_distinct : ∀ entity ∈ entities, (entity.properties.map Property.name).Nodup
  targets_declared : ∀ entity ∈ entities, ∀ property ∈ entity.properties, ∀ target,
    property.type = .entity target → ∃ other ∈ entities, other.name = target
  supertypes_declared : ∀ entity ∈ entities, ∀ supertype, entity.supertype = some supertype →
    ∃ other ∈ entities, other.name = supertype
  lineages_end : ∀ entity ∈ entities, ¬∃ lineage : Nat → Entity, lineage 0 = entity ∧
    ∀ step, InheritsAmong entities (lineage step) (lineage (step + 1))
  ids_declared : ∀ entity ∈ entities, ∃ owner,
    Relation.ReflTransGen (InheritsAmong entities) entity owner ∧
      ∃ property ∈ owner.properties, property.name = entity.id

namespace Declarations

theorem nameFlaw?_of_distinct (earlier : List String) (entities : List Entity)
    (hnamed : ∀ entity ∈ entities, Text.isBlank entity.name = false ∧ entity.name ∉ earlier)
    (hdistinct : (entities.map Entity.name).Nodup) : nameFlaw? earlier entities = none := by
  induction entities generalizing earlier with
  | nil => rfl
  | cons entity rest ih =>
      rw [List.forall_mem_cons] at hnamed
      rw [List.map_cons, List.nodup_cons] at hdistinct
      obtain ⟨⟨hblank, hearlier⟩, hrest⟩ := hnamed
      have hlater : nameFlaw? (entity.name :: earlier) rest = none := by
        refine ih _ (fun other ho => ⟨(hrest other ho).1, fun he => ?_⟩) hdistinct.2
        rcases List.mem_cons.mp he with he | he
        · exact hdistinct.1 (List.mem_map.mpr ⟨other, ho, he⟩)
        · exact (hrest other ho).2 he
      rw [nameFlaw?, hblank, if_neg Bool.false_ne_true, if_neg hearlier]
      exact hlater

theorem nameFlaw?_eq_none_iff (entities : List Entity) :
    nameFlaw? [] entities = none ↔
      (∀ entity ∈ entities, Text.isBlank entity.name = false) ∧
        (entities.map Entity.name).Nodup := by
  constructor
  · intro h
    obtain ⟨hnamed, hdistinct⟩ := nameFlaw?_eq_none [] entities h
    exact ⟨fun entity hm => (hnamed entity hm).1, hdistinct⟩
  · rintro ⟨hnamed, hdistinct⟩
    exact nameFlaw?_of_distinct [] entities (fun entity hm => ⟨hnamed entity hm, by simp⟩) hdistinct

theorem supertypeFlaw?_eq_none_iff (declared : Declarations) (entity : Entity) :
    declared.supertypeFlaw? entity = none ↔
      ∀ supertype, entity.supertype = some supertype → declared.contains supertype := by
  rw [supertypeFlaw?]
  cases entity.supertype with
  | none => simp
  | some supertype => cases hc : declared.contains supertype <;> simp [hc]

section

-- Entities that have their names to themselves are found under them.
variable {declared : Declarations} (hdistinct : (declared.entities.map Entity.name).Nodup)
include hdistinct

theorem entity?_eq_some_iff (name : String) (entity : Entity) :
    declared.entity? name = some entity ↔ entity ∈ declared.entities ∧ entity.name = name :=
  Keyed.find?_eq_some_iff Entity.name declared.entities hdistinct name entity

theorem contains_iff_exists (name : String) :
    declared.contains name ↔ ∃ entity ∈ declared.entities, entity.name = name := by
  simp only [contains_iff, entity?_eq_some_iff hdistinct]

theorem entityFlaw?_eq_none_iff (entity : Entity) :
    declared.entityFlaw? entity = none ↔
      (entity.properties.map Property.name).Nodup ∧
        (∀ property ∈ entity.properties, Text.isBlank property.name = false ∧
          ∀ target, property.type = .entity target →
            ∃ other ∈ declared.entities, other.name = target) ∧
        ∀ supertype, entity.supertype = some supertype →
          ∃ other ∈ declared.entities, other.name = supertype := by
  rw [entityFlaw?, Option.or_eq_none_iff, propertyFlaw?_eq_none_iff, supertypeFlaw?_eq_none_iff]
  simp only [contains_iff_exists hdistinct, Option.mem_def, PropertyType.target?_eq_some_iff,
    List.not_mem_nil, not_false_eq_true, implies_true, true_and, and_assoc]

theorem inherits_iff_among (first second : Entity) :
    declared.Inherits first second ↔ InheritsAmong declared.entities first second := by
  rw [Inherits, supertype?, Option.bind_eq_some_iff]
  constructor
  · rintro ⟨name, hname, hsecond⟩
    obtain ⟨hmem, rfl⟩ := (entity?_eq_some_iff hdistinct name second).mp hsecond
    exact ⟨hmem, hname⟩
  · rintro ⟨hmem, hname⟩
    exact ⟨second.name, hname, (entity?_eq_some_iff hdistinct _ second).mpr ⟨hmem, rfl⟩⟩

theorem lineageFlaw?_eq_none_iff (entity : Entity) (hmem : entity ∈ declared.entities) :
    declared.lineageFlaw? entity = none ↔
      ¬∃ lineage : Nat → Entity, lineage 0 = entity ∧
        ∀ step, InheritsAmong declared.entities (lineage step) (lineage (step + 1)) := by
  have hends : declared.lineageFlaw? entity = none ↔ declared.Ends entity := by
    rw [← endsWithin_length_iff hmem, lineageFlaw?]
    split <;> simp_all
  simp only [hends, ← inherits_iff_among hdistinct, ← not_ends_iff, not_not]

-- Once its lineage ends, an entity has the properties of all that it inherits from.
theorem idFlaw?_eq_none_iff (entity : Entity) (hmem : entity ∈ declared.entities)
    (hends : declared.lineageFlaw? entity = none) :
    declared.idFlaw? entity = none ↔ ∃ owner,
      Relation.ReflTransGen (InheritsAmong declared.entities) entity owner ∧
        ∃ property ∈ owner.properties, property.name = entity.id := by
  have hseen : declared.endsWithin declared.entities.length entity := by
    rw [lineageFlaw?] at hends
    split at hends
    · assumption
    · cases hends
  have hfound := (entity?_eq_some_iff hdistinct entity.name entity).mpr ⟨hmem, rfl⟩
  have hlineage := declared.lineage?_of_entity? entity.name entity hfound
  have hinherits : declared.Inherits = InheritsAmong declared.entities := by
    ext first second
    exact inherits_iff_among hdistinct first second
  have hvisible : (declared.property? entity.name entity.id).isSome ↔
      ∃ owner ∈ declared.lineageOf entity, ∃ property ∈ owner.properties,
        property.name = entity.id :=
    declared.isSome_property?_of_lineage? entity.name _ hlineage entity.id
  rw [← hinherits]
  simp only [← mem_lineageWithin_iff _ hseen]
  rw [idFlaw?, ← lineageOf, ← hvisible]
  cases (declared.property? entity.name entity.id).isSome <;> simp

theorem flaw?_eq_none_iff
    (hnamed : ∀ entity ∈ declared.entities, Text.isBlank entity.name = false) :
    declared.flaw? = none ↔ WellFormed declared.entities := by
  simp only [flaw?, Option.or_eq_none_iff, List.findSome?_eq_none_iff,
    entityFlaw?_eq_none_iff hdistinct]
  constructor
  · rintro ⟨hsound, hlineages, hids⟩
    constructor
    case named => exact hnamed
    case distinct => exact hdistinct
    case properties_named =>
      exact fun entity hmem property hp => ((hsound entity hmem).2.1 property hp).1
    case properties_distinct => exact fun entity hmem => (hsound entity hmem).1
    case targets_declared =>
      exact fun entity hmem property hp => ((hsound entity hmem).2.1 property hp).2
    case supertypes_declared => exact fun entity hmem => (hsound entity hmem).2.2
    case lineages_end =>
      exact fun entity hmem =>
        (lineageFlaw?_eq_none_iff hdistinct entity hmem).mp (hlineages entity hmem)
    case ids_declared =>
      exact fun entity hmem =>
        (idFlaw?_eq_none_iff hdistinct entity hmem (hlineages entity hmem)).mp (hids entity hmem)
  · intro hwell
    have hlineages : ∀ entity ∈ declared.entities, declared.lineageFlaw? entity = none :=
      fun entity hmem =>
        (lineageFlaw?_eq_none_iff hdistinct entity hmem).mpr (hwell.lineages_end entity hmem)
    refine ⟨fun entity hmem => ⟨?_, fun property hp => ⟨?_, ?_⟩, ?_⟩, hlineages, ?_⟩
    · exact hwell.properties_distinct entity hmem
    · exact hwell.properties_named entity hmem property hp
    · exact hwell.targets_declared entity hmem property hp
    · exact hwell.supertypes_declared entity hmem
    · intro entity hmem
      exact (idFlaw?_eq_none_iff hdistinct entity hmem (hlineages entity hmem)).mpr
        (hwell.ids_declared entity hmem)

end

end Declarations

theorem InheritsAmong.congr {entities others : List Entity}
    (h : ∀ entity, entity ∈ entities ↔ entity ∈ others) :
    InheritsAmong entities = InheritsAmong others := by
  ext first second
  rw [InheritsAmong, InheritsAmong, h]

-- In which order entities are declared does not matter.
theorem WellFormed.perm {entities others : List Entity} (hperm : entities.Perm others)
    (h : WellFormed entities) : WellFormed others := by
  have hmem : ∀ entity, entity ∈ others ↔ entity ∈ entities := fun entity => hperm.symm.mem_iff
  constructor
  case distinct => exact (hperm.map Entity.name).nodup_iff.mp h.distinct
  all_goals simp only [hmem, InheritsAmong.congr hmem]
  case named => exact h.named
  case properties_named => exact h.properties_named
  case properties_distinct => exact h.properties_distinct
  case targets_declared => exact h.targets_declared
  case supertypes_declared => exact h.supertypes_declared
  case lineages_end => exact h.lineages_end
  case ids_declared => exact h.ids_declared

theorem Declarations.byName_perm (entities : List Entity) :
    (byName entities).entities.Perm entities :=
  List.mergeSort_perm entities _

namespace Schema

theorem ofEntities_eq_ok_iff (entities : List Entity) (schema : Schema) :
    ofEntities entities = .ok schema ↔
      Declarations.nameFlaw? [] entities = none ∧
        (Declarations.byName entities).flaw? = none ∧
        schema.toDeclarations = Declarations.byName entities := by
  unfold ofEntities
  split
  · next error hn => simp [hn]
  · next hn =>
    dsimp only
    split
    · next error hf => simp [hf]
    · next hf =>
      cases schema
      simp [hn, hf, eq_comm]

-- Its own entities make a schema again.
theorem ofEntities_entities (schema : Schema) : ofEntities schema.entities = .ok schema := by
  have hsorted : Declarations.byName schema.entities = schema.toDeclarations := by
    rw [Declarations.byName, List.mergeSort_of_pairwise]
    exact schema.ascending.imp fun hlt => by simpa using Std.le_of_lt hlt
  have hnames := (Declarations.nameFlaw?_eq_none_iff schema.entities).mpr
    ⟨schema.named, schema.names_nodup⟩
  refine (ofEntities_eq_ok_iff schema.entities schema).mpr ⟨hnames, ?_, hsorted.symm⟩
  rw [hsorted]
  exact schema.flawless

-- What a schema holds of the declarations it was made from.
structure MadeFrom (schema : Schema) (entities : List Entity) : Prop where
  same : schema.entities.Perm entities
  entity?_iff : ∀ name entity,
    schema.entity? name = some entity ↔ entity ∈ entities ∧ entity.name = name
  ascending : (schema.entities.map Entity.name).Pairwise fun first second => first < second

theorem madeFrom_of_ofEntities (entities : List Entity) (schema : Schema)
    (h : ofEntities entities = .ok schema) : schema.MadeFrom entities := by
  obtain ⟨_, _, hdeclared⟩ := (ofEntities_eq_ok_iff entities schema).mp h
  have hsame : schema.entities.Perm entities := by
    rw [hdeclared]
    exact Declarations.byName_perm entities
  constructor
  case same => exact hsame
  case entity?_iff =>
    intro name entity
    rw [Declarations.entity?_eq_some_iff schema.names_nodup, hsame.mem_iff]
  case ascending => exact List.pairwise_map.mpr schema.ascending

theorem exists_schema_iff (entities : List Entity) :
    (∃ schema, ofEntities entities = .ok schema) ↔ WellFormed entities := by
  have hperm := Declarations.byName_perm entities
  have hflaw (h : Declarations.nameFlaw? [] entities = none) :
      (Declarations.byName entities).flaw? = none ↔ WellFormed entities := by
    obtain ⟨hnamed, hdistinct⟩ := (Declarations.nameFlaw?_eq_none_iff entities).mp h
    rw [Declarations.flaw?_eq_none_iff ((hperm.map Entity.name).nodup_iff.mpr hdistinct)
      fun entity hmem => hnamed entity (hperm.mem_iff.mp hmem)]
    exact ⟨WellFormed.perm hperm, WellFormed.perm hperm.symm⟩
  constructor
  · rintro ⟨schema, h⟩
    obtain ⟨hname, hnone, _⟩ := (ofEntities_eq_ok_iff entities schema).mp h
    exact (hflaw hname).mp hnone
  · intro hwell
    have hname := (Declarations.nameFlaw?_eq_none_iff entities).mpr ⟨hwell.named, hwell.distinct⟩
    have hascending := Declarations.byName_ascending entities hwell.distinct
    have hnamed := fun entity hmem => hwell.named entity (hperm.mem_iff.mp hmem)
    have hnone := (hflaw hname).mpr hwell
    refine ⟨⟨Declarations.byName entities, hascending, hnamed, hnone⟩, ?_⟩
    exact (ofEntities_eq_ok_iff entities _).mpr ⟨hname, hnone, rfl⟩

-- The declarations that make a schema are the well-formed ones, and the schema has all of them.
theorem ofEntities_ok_iff_wellFormed (entities : List Entity) :
    ((∃ schema, ofEntities entities = .ok schema) ↔ WellFormed entities) ∧
      ∀ schema, ofEntities entities = .ok schema → schema.MadeFrom entities :=
  ⟨exists_schema_iff entities, madeFrom_of_ofEntities entities⟩

end Schema

end Finder
