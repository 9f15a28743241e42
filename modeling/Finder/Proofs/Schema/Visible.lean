import Finder.Proofs.Schema.Soundness

namespace Finder

def Entity.Declares (entity : Entity) (name : String) : Prop :=
  ∃ property ∈ entity.properties, property.name = name

namespace Declarations

theorem lineageWithin_subset (declared : Declarations) (steps : Nat) (entity : Entity)
    (h : entity ∈ declared.entities) : ∀ other ∈ declared.lineageWithin steps entity,
      other ∈ declared.entities := by
  induction steps generalizing entity with
  | zero => simpa [lineageWithin] using h
  | succ steps ih =>
      simp only [lineageWithin]
      split
      · simpa using h
      · next supertype hs =>
        intro other ho
        rcases List.mem_cons.mp ho with rfl | ho
        · exact h
        · obtain ⟨name, _, hn⟩ := Option.bind_eq_some_iff.mp hs
          exact ih supertype (declared.entity?_eq_some name supertype hn).1 other ho

theorem lineage?_of_entity? (declared : Declarations) (name : String) (entity : Entity)
    (h : declared.entity? name = some entity) :
    declared.lineage? name = some (declared.lineageOf entity) := by
  rw [lineage?, h, Option.map_some]

theorem lineage?_eq_some (declared : Declarations) (name : String) (lineage : List Entity)
    (h : declared.lineage? name = some lineage) : ∀ entity ∈ lineage, entity ∈ declared.entities := by
  obtain ⟨entity, he, rfl⟩ := Option.map_eq_some_iff.mp h
  exact declared.lineageWithin_subset _ entity (declared.entity?_eq_some name entity he).1

theorem ownedBy?_eq_some (name : String) (entity : Entity) (found : OwnedProperty)
    (h : ownedBy? name entity = some found) :
    found.property ∈ entity.properties ∧ found.property.name = name ∧ found.owner = entity.name := by
  obtain ⟨property, hp, rfl⟩ := Option.map_eq_some_iff.mp h
  exact ⟨List.mem_of_find?_eq_some hp, by simpa using List.find?_some hp, rfl⟩

theorem ownedBy?_eq_none_iff (name : String) (entity : Entity) :
    ownedBy? name entity = none ↔ ¬entity.Declares name := by
  simp [ownedBy?, Entity.own?, Entity.Declares]

-- A name is visible where some entity of the lineage declares it.
theorem isSome_property?_of_lineage? (declared : Declarations) (entity : String)
    (lineage : List Entity) (h : declared.lineage? entity = some lineage) (name : String) :
    (declared.property? entity name).isSome ↔ ∃ owner ∈ lineage, owner.Declares name := by
  rw [property?, h, Option.bind_some, List.findSome?_isSome_iff]
  simp only [← Option.ne_none_iff_isSome, ne_eq, ownedBy?_eq_none_iff, not_not]

-- A visible property is declared in the lineage, under the name that is looked for.
theorem property?_eq_some (declared : Declarations) (entity name : String) (found : OwnedProperty)
    (h : declared.property? entity name = some found) :
    found.property.name = name ∧ ∃ lineage, declared.lineage? entity = some lineage ∧
      ∃ owner ∈ lineage, found.property ∈ owner.properties ∧ found.owner = owner.name := by
  obtain ⟨lineage, hl, hf⟩ := Option.bind_eq_some_iff.mp h
  obtain ⟨owner, hm, ho⟩ := List.exists_of_findSome?_eq_some hf
  obtain ⟨hp, hn, he⟩ := ownedBy?_eq_some name owner found ho
  exact ⟨hn, lineage, hl, owner, hm, hp, he⟩

theorem isAssignable_of_property? (declared : Declarations) (entity name : String)
    (found : OwnedProperty) (h : declared.property? entity name = some found) :
    declared.isAssignable found.owner entity := by
  obtain ⟨_, lineage, hl, owner, hm, _, ho⟩ := declared.property?_eq_some entity name found h
  simp only [isAssignable, hl, Option.any_some, List.any_eq_true, beq_iff_eq]
  exact ⟨owner, hm, ho.symm⟩

theorem contains_of_property? (declared : Declarations) (entity name : String)
    (found : OwnedProperty) (h : declared.property? entity name = some found) :
    declared.contains entity := by
  obtain ⟨_, lineage, hl, _⟩ := declared.property?_eq_some entity name found h
  obtain ⟨declaring, he, _⟩ := Option.map_eq_some_iff.mp hl
  exact (declared.contains_iff entity).mpr ⟨declaring, he⟩

theorem find?_place (property : OwnedProperty) (placed : List OwnedProperty) (name : String) :
    (place property placed).find? (fun other => other.property.name == name) =
      if property.property.name = name then some property
      else placed.find? fun other => other.property.name == name := by
  induction placed with
  | nil => by_cases h : property.property.name = name <;> simp [place, h]
  | cons other rest ih =>
      simp only [place]
      by_cases hs : other.property.name = property.property.name
      · rw [if_pos hs]
        by_cases h : property.property.name = name
        · simp [h]
        · rw [List.find?_cons_of_neg (by simpa using h), if_neg h,
            List.find?_cons_of_neg (by simpa [hs] using h)]
      · rw [if_neg hs]
        by_cases h : other.property.name = name
        · have hne : property.property.name ≠ name := fun hp => hs (h.trans hp.symm)
          simp [h, hne]
        · rw [List.find?_cons_of_neg (by simpa using h), List.find?_cons_of_neg (by simpa using h),
            ih]

theorem mem_place (property : OwnedProperty) (placed : List OwnedProperty) (other : OwnedProperty)
    (h : other ∈ place property placed) : other = property ∨ other ∈ placed := by
  induction placed with
  | nil => simpa [place] using h
  | cons first rest ih =>
      simp only [place] at h
      split at h
      · rcases List.mem_cons.mp h with h | h
        · exact .inl h
        · exact .inr (List.mem_cons_of_mem _ h)
      · rcases List.mem_cons.mp h with rfl | h
        · exact .inr List.mem_cons_self
        · exact (ih h).imp_right (List.mem_cons_of_mem _)

theorem place_nodup (property : OwnedProperty) (placed : List OwnedProperty)
    (h : (placed.map fun other => other.property.name).Nodup) :
    ((place property placed).map fun other => other.property.name).Nodup := by
  induction placed with
  | nil => simp [place]
  | cons first rest ih =>
      rw [List.map_cons, List.nodup_cons] at h
      simp only [place]
      split
      · next hs =>
        rw [List.map_cons, List.nodup_cons, ← hs]
        exact h
      · next hs =>
        rw [List.map_cons, List.nodup_cons]
        refine ⟨?_, ih h.2⟩
        intro hm
        obtain ⟨other, ho, hn⟩ := List.mem_map.mp hm
        rcases mem_place property rest other ho with rfl | ho
        · exact hs hn.symm
        · exact h.1 (List.mem_map.mpr ⟨other, ho, hn⟩)

-- Of the properties of one entity the last of a name is placed, and the first is found. The names of
-- an entity's own properties differ.
theorem find?_placeAll (inherited : List OwnedProperty) (entity : Entity)
    (h : (entity.properties.map Property.name).Nodup) (name : String) :
    (placeAll inherited entity).find? (fun other => other.property.name == name) =
      (ownedBy? name entity).or (inherited.find? fun other => other.property.name == name) := by
  have hall (properties : List Property) (hn : (properties.map Property.name).Nodup)
      (placed : List OwnedProperty) :
      (properties.foldl (fun placed property => place ⟨property, entity.name⟩ placed) placed).find?
          (fun other => other.property.name == name) =
        ((properties.find? fun property => property.name == name).map
          fun property => (⟨property, entity.name⟩ : OwnedProperty)).or
            (placed.find? fun other => other.property.name == name) := by
    induction properties generalizing placed with
    | nil => simp
    | cons property rest ih =>
        rw [List.map_cons, List.nodup_cons] at hn
        rw [List.foldl_cons, ih hn.2, find?_place]
        by_cases hp : property.name = name
        · have hlater : rest.find? (fun other => other.name == name) = none := by
            rw [List.find?_eq_none]
            intro other ho he
            exact hn.1 (List.mem_map.mpr ⟨other, ho, by simpa [hp] using he⟩)
          simp [hp, hlater]
        · rw [if_neg hp, List.find?_cons_of_neg (by simpa using hp)]
  exact hall entity.properties h inherited

theorem placeAll_nodup (inherited : List OwnedProperty) (entity : Entity)
    (h : (inherited.map fun other => other.property.name).Nodup) :
    ((placeAll inherited entity).map fun other => other.property.name).Nodup := by
  unfold placeAll
  induction entity.properties generalizing inherited with
  | nil => exact h
  | cons property rest ih => exact ih _ (place_nodup _ _ h)

end Declarations

namespace Schema

theorem find?_properties? (schema : Schema) (entity : String) (properties : List OwnedProperty)
    (h : schema.properties? entity = some properties) (name : String) :
    properties.find? (fun other => other.property.name == name) = schema.property? entity name := by
  obtain ⟨lineage, hl, rfl⟩ := Option.map_eq_some_iff.mp h
  have hm := schema.lineage?_eq_some entity lineage hl
  rw [Declarations.property?, hl, Option.bind_some, List.foldl_reverse]
  clear hl h
  induction lineage with
  | nil => rfl
  | cons first rest ih =>
      have hn := (schema.properties_sound first (hm first List.mem_cons_self)).1
      rw [List.foldr_cons, Declarations.find?_placeAll _ _ hn, List.findSome?_cons,
        ih fun other ho => hm other (List.mem_cons_of_mem _ ho)]
      cases Declarations.ownedBy? name first <;> rfl

theorem properties?_nodup (schema : Schema) (entity : String) (properties : List OwnedProperty)
    (h : schema.properties? entity = some properties) :
    (properties.map fun other => other.property.name).Nodup := by
  obtain ⟨lineage, hl, rfl⟩ := Option.map_eq_some_iff.mp h
  rw [List.foldl_reverse]
  clear hl h
  induction lineage with
  | nil => simp
  | cons first rest ih => exact Declarations.placeAll_nodup _ _ ih

-- A property is listed where it is the one that is found under its name.
theorem mem_properties?_iff (schema : Schema) (entity : String) (properties : List OwnedProperty)
    (h : schema.properties? entity = some properties) (found : OwnedProperty) :
    found ∈ properties ↔ schema.property? entity found.property.name = some found := by
  rw [← schema.find?_properties? entity properties h,
    Keyed.find?_eq_some_iff (fun other : OwnedProperty => other.property.name) properties
      (schema.properties?_nodup entity properties h)]
  simp

theorem contains_owner (schema : Schema) (entity name : String) (found : OwnedProperty)
    (h : schema.property? entity name = some found) :
    ∃ owner ∈ schema.entities, found.property ∈ owner.properties ∧ found.owner = owner.name := by
  obtain ⟨_, lineage, hl, owner, hm, hp, ho⟩ := schema.property?_eq_some entity name found h
  exact ⟨owner, schema.lineage?_eq_some entity lineage hl owner hm, hp, ho⟩

-- The entity that a visible property refers to is known.
theorem contains_of_refers (schema : Schema) (entity name : String) (found : OwnedProperty)
    (h : schema.property? entity name = some found) (target : String)
    (ht : found.property.type = .entity target) : schema.contains target := by
  obtain ⟨owner, howner, hmem, _⟩ := schema.contains_owner entity name found h
  have hsound := ((schema.properties_sound owner howner).2 found.property hmem).2
  exact hsound target ((PropertyType.target?_eq_some_iff _ _).mpr ht)

end Schema

theorem name_ne_empty (schema : Schema) (root name : String) (found : OwnedProperty)
    (h : schema.property? root name = some found) : found.property.name ≠ "" := by
  obtain ⟨owner, ho, hm, _⟩ := schema.contains_owner root name found h
  have hblank := ((schema.properties_sound owner ho).2 found.property hm).1
  intro he
  rw [he] at hblank
  exact Bool.noConfusion hblank

end Finder
