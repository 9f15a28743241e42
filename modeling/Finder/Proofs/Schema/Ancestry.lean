import Finder.Proofs.Schema.WellFormed

namespace Finder

namespace Declarations

-- An entity with all that it inherits from, the nearest first. The last one has no supertype.
inductive Line (declared : Declarations) : Entity → List Entity → Prop
  | top (entity : Entity) (h : entity.supertype = none) : Line declared entity [entity]
  | under (entity supertype : Entity) (line : List Entity)
      (h : declared.Inherits entity supertype) (hline : Line declared supertype line) :
      Line declared entity (entity :: line)

theorem rightUnique_inherits (declared : Declarations) : Relator.RightUnique declared.Inherits := by
  intro entity first second hfirst hsecond
  exact Option.some.inj (hfirst.symm.trans hsecond)

end Declarations

namespace Schema

variable {schema : Schema}

theorem endsWithin_of_mem (entity : Entity) (hmem : entity ∈ schema.entities) :
    schema.endsWithin schema.entities.length entity := by
  have hflaw := (schema.entity_flawless entity hmem).2.1
  rw [Declarations.lineageFlaw?] at hflaw
  split at hflaw
  · assumption
  · cases hflaw

-- A supertype that is named is found.
theorem supertype_eq_none (entity : Entity) (hmem : entity ∈ schema.entities)
    (h : schema.supertype? entity = none) : entity.supertype = none := by
  have hflaw := (schema.entity_flawless entity hmem).1
  rw [Declarations.entityFlaw?, Option.or_eq_none_iff] at hflaw
  have hknown := (Declarations.supertypeFlaw?_eq_none_iff _ entity).mp hflaw.2
  by_contra hne
  obtain ⟨name, hname⟩ := Option.ne_none_iff_exists'.mp hne
  obtain ⟨supertype, hfound⟩ := (schema.contains_iff name).mp (hknown name hname)
  simp [Declarations.supertype?, hname, hfound] at h

theorem mem_of_inherits (lower upper : Entity) (h : schema.Inherits lower upper) :
    upper ∈ schema.entities := by
  obtain ⟨name, _, hfound⟩ := Option.bind_eq_some_iff.mp h
  exact (schema.entity?_eq_some name upper hfound).1

theorem line_lineageWithin (steps : Nat) (entity : Entity) (hmem : entity ∈ schema.entities)
    (hends : schema.endsWithin steps entity) :
    schema.Line entity (schema.lineageWithin steps entity) := by
  induction steps generalizing entity with
  | zero =>
      have hnone : schema.supertype? entity = none := Option.isNone_iff_eq_none.mp hends
      exact .top entity (supertype_eq_none entity hmem hnone)
  | succ steps ih =>
      rw [Declarations.lineageWithin]
      cases hs : schema.supertype? entity with
      | none => exact .top entity (supertype_eq_none entity hmem hs)
      | some supertype =>
          rw [Declarations.endsWithin, hs] at hends
          have hsupertype := mem_of_inherits entity supertype hs
          exact .under entity supertype _ hs (ih supertype hsupertype hends)

theorem line_lineageOf (entity : Entity) (hmem : entity ∈ schema.entities) :
    schema.Line entity (schema.lineageOf entity) :=
  line_lineageWithin _ entity hmem (endsWithin_of_mem entity hmem)

theorem mem_lineageOf_iff (entity : Entity) (hmem : entity ∈ schema.entities) (owner : Entity) :
    owner ∈ schema.lineageOf entity ↔ Relation.ReflTransGen schema.Inherits entity owner :=
  Declarations.mem_lineageWithin_iff _ (endsWithin_of_mem entity hmem) owner

-- What is assigned from is found by following supertypes, as far as they lead.
theorem isAssignable_iff (target source : String) :
    schema.isAssignable target source ↔ ∃ lower upper, schema.entity? source = some lower ∧
      schema.entity? target = some upper ∧ Relation.ReflTransGen schema.Inherits lower upper := by
  cases hsource : schema.entity? source with
  | none => simp [Declarations.isAssignable, Declarations.lineage?, hsource]
  | some lower =>
      have hmem := (schema.entity?_eq_some source lower hsource).1
      have hany : schema.isAssignable target source ↔
          ∃ upper ∈ schema.lineageOf lower, upper.name = target := by
        simp [Declarations.isAssignable, Declarations.lineage?, hsource]
      rw [hany]
      constructor
      · rintro ⟨upper, hupper, rfl⟩
        have hdeclared := schema.lineageWithin_subset _ lower hmem upper hupper
        have hfound := (Declarations.entity?_eq_some_iff schema.names_nodup upper.name upper).mpr
          ⟨hdeclared, rfl⟩
        exact ⟨lower, upper, rfl, hfound, (mem_lineageOf_iff lower hmem upper).mp hupper⟩
      · rintro ⟨other, upper, hother, htarget, hreaches⟩
        obtain rfl := Option.some.inj hother
        exact ⟨upper, (mem_lineageOf_iff lower hmem upper).mpr hreaches,
          (schema.entity?_eq_some target upper htarget).2⟩

-- Entities that reach each other are the same, since no line comes back.
theorem eq_of_reaches (lower upper : Entity) (hmem : lower ∈ schema.entities)
    (hup : Relation.ReflTransGen schema.Inherits lower upper)
    (hdown : Relation.ReflTransGen schema.Inherits upper lower) : lower = upper := by
  have hends : schema.Ends lower := Declarations.ends_of_endsWithin _ (endsWithin_of_mem lower hmem)
  by_contra hne
  have hproper := (Relation.reflTransGen_iff_eq_or_transGen.mp hup).resolve_left (Ne.symm hne)
  exact hends.not_reaches_self (hproper.trans_left hdown)

-- A name is visible on an entity where it is declared by it or above it.
theorem isSome_property?_iff (entity name : String) :
    (schema.property? entity name).isSome ↔ ∃ lower owner, schema.entity? entity = some lower ∧
      Relation.ReflTransGen schema.Inherits lower owner ∧ owner.Declares name := by
  cases hentity : schema.entity? entity with
  | none => simp [Declarations.property?, Declarations.lineage?, hentity]
  | some lower =>
      have hmem := (schema.entity?_eq_some entity lower hentity).1
      rw [schema.isSome_property?_of_lineage? entity _ (schema.lineage?_of_entity? _ _ hentity)]
      simp only [mem_lineageOf_iff lower hmem]
      constructor
      · rintro ⟨owner, hdeclares⟩
        exact ⟨lower, owner, rfl, hdeclares⟩
      · rintro ⟨other, owner, hother, hdeclares⟩
        obtain rfl := Option.some.inj hother
        exact ⟨owner, hdeclares⟩

-- Assignability follows the supertypes and orders the known entities. What can be assigned from one
-- source forms a chain, and sees no name that the source does not see.
structure Ordered (schema : Schema) : Prop where
  follows : ∀ target source, schema.isAssignable target source ↔
    ∃ lower upper, schema.entity? source = some lower ∧ schema.entity? target = some upper ∧
      Relation.ReflTransGen schema.Inherits lower upper
  refl : ∀ entity, schema.contains entity → schema.isAssignable entity entity
  trans : ∀ top middle bottom, schema.isAssignable top middle → schema.isAssignable middle bottom →
    schema.isAssignable top bottom
  antisymm : ∀ first second, schema.isAssignable first second → schema.isAssignable second first →
    first = second
  unknown : ∀ target source, ¬schema.contains target ∨ ¬schema.contains source →
    schema.isAssignable target source = false
  comparable : ∀ first second source, schema.isAssignable first source →
    schema.isAssignable second source →
      schema.isAssignable first second ∨ schema.isAssignable second first
  visible : ∀ target source name, schema.isAssignable target source →
    (schema.property? target name).isSome → (schema.property? source name).isSome

theorem assignability_ordered (schema : Schema) : schema.Ordered where
  follows := isAssignable_iff
  refl := by
    intro entity hknown
    obtain ⟨found, hfound⟩ := (schema.contains_iff entity).mp hknown
    exact (isAssignable_iff _ _).mpr ⟨found, found, hfound, hfound, .refl⟩
  trans := by
    intro top middle bottom hupper hlower
    obtain ⟨between, high, hbetween, hhigh, hup⟩ := (isAssignable_iff _ _).mp hupper
    obtain ⟨low, between', hlow, hbetween', hlow_up⟩ := (isAssignable_iff _ _).mp hlower
    obtain rfl := Option.some.inj (hbetween.symm.trans hbetween')
    exact (isAssignable_iff _ _).mpr ⟨low, high, hlow, hhigh, hlow_up.trans hup⟩
  antisymm := by
    intro first second hfirst hsecond
    obtain ⟨low, high, hlow, hhigh, hup⟩ := (isAssignable_iff _ _).mp hfirst
    obtain ⟨high', low', hhigh', hlow', hdown⟩ := (isAssignable_iff _ _).mp hsecond
    obtain rfl := Option.some.inj (hlow.symm.trans hlow')
    obtain rfl := Option.some.inj (hhigh.symm.trans hhigh')
    obtain ⟨hmem, hname⟩ := schema.entity?_eq_some second low hlow
    obtain rfl := eq_of_reaches low high hmem hup hdown
    exact (schema.entity?_eq_some first low hhigh).2.symm.trans hname
  unknown := by
    intro target source hunknown
    rw [Bool.eq_false_iff]
    intro hassignable
    obtain ⟨low, high, hlow, hhigh, _⟩ := (isAssignable_iff _ _).mp hassignable
    rcases hunknown with hunknown | hunknown
    · exact hunknown ((schema.contains_iff target).mpr ⟨high, hhigh⟩)
    · exact hunknown ((schema.contains_iff source).mpr ⟨low, hlow⟩)
  comparable := by
    intro first second source hfirst hsecond
    obtain ⟨low, one, hlow, hone, hup⟩ := (isAssignable_iff _ _).mp hfirst
    obtain ⟨low', other, hlow', hother, hup'⟩ := (isAssignable_iff _ _).mp hsecond
    obtain rfl := Option.some.inj (hlow.symm.trans hlow')
    simp only [isAssignable_iff]
    rcases Relation.ReflTransGen.total_of_right_unique schema.rightUnique_inherits hup hup' with
      hreaches | hreaches
    · exact .inr ⟨one, other, hone, hother, hreaches⟩
    · exact .inl ⟨other, one, hother, hone, hreaches⟩
  visible := by
    intro target source name hassignable hseen
    obtain ⟨low, high, hlow, hhigh, hup⟩ := (isAssignable_iff _ _).mp hassignable
    obtain ⟨high', owner, hhigh', howner, hdeclares⟩ := (isSome_property?_iff _ _).mp hseen
    obtain rfl := Option.some.inj (hhigh.symm.trans hhigh')
    exact (isSome_property?_iff _ _).mpr ⟨low, owner, hlow, hup.trans howner, hdeclares⟩

end Schema

end Finder
