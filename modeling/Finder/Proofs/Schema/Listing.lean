import Finder.Proofs.Schema.Ancestry

namespace Finder

namespace Declarations

-- The declaration of a name by the first entity of a line that has one.
def Nearest (line : List Entity) (name : String) (found : OwnedProperty) : Prop :=
  ∃ owner, IsFirst (fun entity => entity.Declares name) line owner ∧
    found.property ∈ owner.properties ∧ found.property.name = name ∧ found.owner = owner.name

-- A list of properties that has each of these names once, where it comes up first.
def Lists (placed : List OwnedProperty) (names : List String) : Prop :=
  placed.map (fun found => found.property.name) = names.eraseDups

theorem map_name_place (property : OwnedProperty) (placed : List OwnedProperty) :
    (place property placed).map (fun found => found.property.name) =
      if property.property.name ∈ placed.map (fun found => found.property.name) then
        placed.map fun found => found.property.name
      else placed.map (fun found => found.property.name) ++ [property.property.name] := by
  induction placed with
  | nil => rfl
  | cons other rest ih =>
      rw [place]
      by_cases hsame : other.property.name = property.property.name
      · rw [if_pos hsame, List.map_cons, List.map_cons, hsame, if_pos List.mem_cons_self]
      · rw [if_neg hsame, List.map_cons, ih, List.map_cons]
        by_cases hlater : property.property.name ∈ rest.map fun found => found.property.name
        · rw [if_pos hlater, if_pos (List.mem_cons_of_mem _ hlater)]
        · have hnew : property.property.name ∉
              other.property.name :: rest.map fun found => found.property.name := by
            rw [List.mem_cons, not_or]
            exact ⟨Ne.symm hsame, hlater⟩
          rw [if_neg hlater, if_neg hnew, List.cons_append]

theorem eraseDups_concat (names : List String) (name : String) :
    (names ++ [name]).eraseDups =
      if name ∈ names then names.eraseDups else names.eraseDups ++ [name] := by
  rw [List.eraseDups_append]
  by_cases h : name ∈ names <;> simp [List.removeAll, List.eraseDups_cons, h]

section

variable {placed : List OwnedProperty} {names : List String}

theorem Lists.place (h : Lists placed names) (property : OwnedProperty) :
    Lists (place property placed) (names ++ [property.property.name]) := by
  unfold Lists at h ⊢
  rw [map_name_place, h, eraseDups_concat]
  simp only [List.mem_eraseDups]

theorem Lists.placeAll (h : Lists placed names) (entity : Entity) :
    Lists (placeAll placed entity) (names ++ entity.properties.map Property.name) := by
  unfold Declarations.placeAll
  induction entity.properties generalizing placed names with
  | nil => simpa using h
  | cons property rest ih =>
      have hrest := ih (h.place ⟨property, entity.name⟩)
      rwa [List.append_assoc] at hrest

theorem Lists.foldl (h : Lists placed names) (entities : List Entity) :
    Lists (entities.foldl Declarations.placeAll placed)
      (names ++ entities.flatMap fun entity => entity.properties.map Property.name) := by
  induction entities generalizing placed names with
  | nil => simpa using h
  | cons entity rest ih =>
      have hrest := ih (h.placeAll entity)
      rwa [List.append_assoc] at hrest

end

theorem ownedBy?_eq_some_iff (name : String) (entity : Entity)
    (hdistinct : (entity.properties.map Property.name).Nodup) (found : OwnedProperty) :
    ownedBy? name entity = some found ↔ found.property ∈ entity.properties ∧
      found.property.name = name ∧ found.owner = entity.name := by
  refine ⟨ownedBy?_eq_some name entity found, ?_⟩
  rintro ⟨hmem, hname, howner⟩
  have hown : entity.own? name = some found.property :=
    (Keyed.find?_eq_some_iff Property.name entity.properties hdistinct name found.property).mpr
      ⟨hmem, hname⟩
  rw [ownedBy?, hown, Option.map_some, ← howner]

theorem findSome?_ownedBy?_iff_nearest (line : List Entity)
    (hdistinct : ∀ entity ∈ line, (entity.properties.map Property.name).Nodup) (name : String)
    (found : OwnedProperty) :
    line.findSome? (ownedBy? name) = some found ↔ Nearest line name found := by
  induction line with
  | nil => simp [Nearest, not_isFirst_nil]
  | cons entity rest ih =>
      rw [List.forall_mem_cons] at hdistinct
      rw [List.findSome?_cons]
      by_cases hdeclares : entity.Declares name
      · obtain ⟨own, hown⟩ := Option.ne_none_iff_exists'.mp
          (mt (ownedBy?_eq_none_iff name entity).mp (not_not_intro hdeclares))
        have hsome := ownedBy?_eq_some_iff name entity hdistinct.1 found
        simp [Nearest, isFirst_cons, hdeclares, ← hsome, hown]
      · have hnone := (ownedBy?_eq_none_iff name entity).mpr hdeclares
        rw [hnone]
        simp only [ih hdistinct.2, Nearest, isFirst_cons, hdeclares, false_and, false_or,
          not_false_eq_true, true_and]

end Declarations

namespace Schema

-- A list of the properties visible on an entity, told by its line. Names stand in the order of the
-- declarations from the top of the line down, each where it is declared first. The property of a name
-- is the one declared nearest to the entity, and it is the one that a look-up finds.
structure Listed (schema : Schema) (entity : String) (line : List Entity)
    (properties : List OwnedProperty) : Prop where
  names_eq : properties.map (fun found => found.property.name) =
    (line.reverse.flatMap fun owner => owner.properties.map Property.name).eraseDups
  names_nodup : (properties.map fun found => found.property.name).Nodup
  declared : ∀ name,
    (∃ found ∈ properties, found.property.name = name) ↔ ∃ owner ∈ line, owner.Declares name
  property?_iff : ∀ name found,
    schema.property? entity name = some found ↔ found ∈ properties ∧ found.property.name = name
  nearest : ∀ name found,
    schema.property? entity name = some found ↔ Declarations.Nearest line name found

theorem lookups_agree (schema : Schema) (name : String) (entity : Entity)
    (h : schema.entity? name = some entity) :
    ∃ line properties, schema.Line entity line ∧ schema.properties? name = some properties ∧
      schema.Listed name line properties := by
  have hmem := (schema.entity?_eq_some name entity h).1
  have hlineage := schema.lineage?_of_entity? name entity h
  have hproperties : schema.properties? name =
      some ((schema.lineageOf entity).reverse.foldl Declarations.placeAll []) := by
    rw [Declarations.properties?, hlineage, Option.map_some]
  have hnone : Declarations.Lists [] [] := rfl
  have hnames := hnone.foldl (schema.lineageOf entity).reverse
  refine ⟨_, _, line_lineageOf entity hmem, hproperties, ?_⟩
  constructor
  case names_eq => exact hnames
  case names_nodup => exact schema.properties?_nodup name _ hproperties
  case declared =>
    intro other
    have hiff := congrArg (other ∈ ·) hnames
    simpa [Entity.Declares] using hiff
  case property?_iff =>
    intro other found
    rw [← schema.find?_properties? name _ hproperties]
    exact Keyed.find?_eq_some_iff (fun owned : OwnedProperty => owned.property.name) _
      (schema.properties?_nodup name _ hproperties) other found
  case nearest =>
    intro other found
    rw [Declarations.property?, hlineage, Option.bind_some]
    refine Declarations.findSome?_ownedBy?_iff_nearest _ (fun owner howner => ?_) other found
    exact (schema.properties_sound owner
      (schema.lineage?_eq_some name _ hlineage owner howner)).1

-- Dogs inherit from pets, and these from animals. Each of the three declares a property anew.
def kennel : Schema where
  entities := [
    ⟨"Animal", none, "id", none, [⟨"id", .scalar .integer, none⟩, ⟨"name", .scalar .text, none⟩,
      ⟨"tag", .scalar .text, none⟩]⟩,
    ⟨"Dog", none, "id", some "Pet", [⟨"breed", .scalar .text, none⟩, ⟨"name", .entity "Pet", none⟩]⟩,
    ⟨"Pet", none, "id", some "Animal", [⟨"keeper", .scalar .text, none⟩,
      ⟨"tag", .scalar .integer, none⟩]⟩]
  ascending := by decide +kernel
  named := by decide +kernel
  flawless := by decide +kernel

def dog : Entity :=
  ⟨"Dog", none, "id", some "Pet", [⟨"breed", .scalar .text, none⟩, ⟨"name", .entity "Pet", none⟩]⟩

theorem lookups_agree_dog : kennel.entity? "Dog" = some dog ∧
    ∃ line properties, kennel.Line dog line ∧ kennel.properties? "Dog" = some properties ∧
      kennel.Listed "Dog" line properties := by
  have hdog : kennel.entity? "Dog" = some dog := by decide +kernel
  exact ⟨hdog, lookups_agree kennel "Dog" dog hdog⟩

end Schema

end Finder
