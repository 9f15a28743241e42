import Mathlib.Tactic.MkIffOfInductiveProp
import Finder.Proofs.Schema.WellFormed

namespace Finder

-- The error of the first element that has one. What is wrong with an element may depend on those before.
def FirstError {α : Type} (wrong : List α → α → SchemaError → Prop) (list : List α)
    (error : SchemaError) : Prop :=
  ∃ before a after, list = before ++ a :: after ∧ wrong before a error ∧
    ∀ earlier b later, before = earlier ++ b :: later → ∀ other, ¬wrong earlier b other

-- The error of the entity that is least by name among those that have one.
def LeastError (entities : List Entity) (wrong : Entity → SchemaError → Prop) (error : SchemaError) :
    Prop :=
  ∃ entity ∈ entities, wrong entity error ∧
    ∀ other ∈ entities, ∀ found, wrong other found → entity.name ≤ other.name

@[mk_iff]
inductive NameDefect (before : List Entity) (entity : Entity) : SchemaError → Prop
  | blank (h : Text.isBlank entity.name) : NameDefect before entity .blankEntityName
  | repeated (hnamed : Text.isBlank entity.name = false) (h : entity.name ∈ before.map Entity.name) :
      NameDefect before entity (.repeatedEntity entity.name)

@[mk_iff]
inductive PropertyDefect (entities : List Entity) (owner : Entity) (before : List Property)
    (property : Property) : SchemaError → Prop
  | blank (h : Text.isBlank property.name) :
      PropertyDefect entities owner before property (.blankPropertyName owner.name)
  | repeated (hnamed : Text.isBlank property.name = false)
      (h : property.name ∈ before.map Property.name) :
      PropertyDefect entities owner before property (.repeatedProperty owner.name property.name)
  | unknownTarget (target : String) (hnamed : Text.isBlank property.name = false)
      (hnew : property.name ∉ before.map Property.name) (htarget : property.type = .entity target)
      (h : ¬∃ other ∈ entities, other.name = target) :
      PropertyDefect entities owner before property
        (.unknownTarget owner.name property.name target)

-- An entity is wrong in its properties first, and in what it extends if these are sound.
@[mk_iff]
inductive EntityDefect (entities : List Entity) (entity : Entity) : SchemaError → Prop
  | property (error : SchemaError)
      (h : FirstError (PropertyDefect entities entity) entity.properties error) :
      EntityDefect entities entity error
  | unknownSupertype (supertype : String)
      (hproperties : ∀ other, ¬FirstError (PropertyDefect entities entity) entity.properties other)
      (hsupertype : entity.supertype = some supertype)
      (h : ¬∃ other ∈ entities, other.name = supertype) :
      EntityDefect entities entity (.unknownSupertype entity.name supertype)

-- The chain from an entity never ends, whether it comes back to the entity or not.
@[mk_iff]
inductive LineageDefect (entities : List Entity) (entity : Entity) : SchemaError → Prop
  | endless (lineage : Nat → Entity) (hstart : lineage 0 = entity)
      (h : ∀ step, InheritsAmong entities (lineage step) (lineage (step + 1))) :
      LineageDefect entities entity (.endlessLineage entity.name)

@[mk_iff]
inductive IdDefect (entities : List Entity) (entity : Entity) : SchemaError → Prop
  | missing (h : ¬∃ owner, Relation.ReflTransGen (InheritsAmong entities) entity owner ∧
      owner.Declares entity.id) : IdDefect entities entity (.missingId entity.name entity.id)

-- What is reported. Names are checked as they are given, and all else in the order of names.
inductive Rejected (entities : List Entity) (error : SchemaError) : Prop
  | name (h : FirstError NameDefect entities error)
  | entity (hnames : ∀ other, ¬FirstError NameDefect entities other)
      (h : LeastError entities (EntityDefect entities) error)
  | lineage (hnames : ∀ other, ¬FirstError NameDefect entities other)
      (hentities : ∀ entity ∈ entities, ∀ other, ¬EntityDefect entities entity other)
      (h : LeastError entities (LineageDefect entities) error)
  | id (hnames : ∀ other, ¬FirstError NameDefect entities other)
      (hentities : ∀ entity ∈ entities, ∀ other, ¬EntityDefect entities entity other)
      (hlineages : ∀ entity ∈ entities, ∀ other, ¬LineageDefect entities entity other)
      (h : LeastError entities (IdDefect entities) error)

theorem not_firstError_nil {α : Type} (wrong : List α → α → SchemaError → Prop)
    (error : SchemaError) : ¬FirstError wrong [] error := by
  rintro ⟨before, a, after, he, _⟩
  simp at he

theorem firstError_cons {α : Type} (wrong : List α → α → SchemaError → Prop) (a : α)
    (rest : List α) (error : SchemaError) :
    FirstError wrong (a :: rest) error ↔ wrong [] a error ∨
      (∀ other, ¬wrong [] a other) ∧ FirstError (fun before => wrong (a :: before)) rest error := by
  constructor
  · rintro ⟨before, b, after, he, hb, hbefore⟩
    cases before with
    | nil =>
        obtain ⟨rfl, rfl⟩ := List.cons.inj he
        exact .inl hb
    | cons first before =>
        obtain ⟨rfl, rfl⟩ := List.cons.inj he
        have hsplit := (forall_split_cons (fun earlier b => ∀ other, ¬wrong earlier b other)
          a before).mp hbefore
        exact .inr ⟨hsplit.1, before, b, after, rfl, hb, hsplit.2⟩
  · rintro (h | ⟨hfirst, before, b, after, rfl, hb, hbefore⟩)
    · exact ⟨[], a, rest, rfl, h, by simp⟩
    · exact ⟨a :: before, b, after, rfl, hb,
        (forall_split_cons (fun earlier b => ∀ other, ¬wrong earlier b other) a before).mpr
          ⟨hfirst, hbefore⟩⟩

namespace Declarations

-- The names before are those of the entities before, the last one first.
theorem nameFlaw?_eq_some_iff (given entities : List Entity) (error : SchemaError) :
    nameFlaw? (given.reverse.map Entity.name) entities = some error ↔
      FirstError (fun before => NameDefect (given ++ before)) entities error := by
  induction entities generalizing given with
  | nil => simp [nameFlaw?, not_firstError_nil]
  | cons entity rest ih =>
      have hrest := ih (given ++ [entity])
      simp only [List.reverse_append, List.reverse_singleton, List.singleton_append, List.map_cons,
        List.append_assoc] at hrest
      rw [firstError_cons, List.append_nil, ← hrest]
      have hmem : entity.name ∈ given.reverse.map Entity.name ↔
          entity.name ∈ given.map Entity.name := by simp
      simp only [nameFlaw?, hmem, nameDefect_iff]
      by_cases hblank : Text.isBlank entity.name
      · simp [hblank, @eq_comm _ error]
      by_cases hgiven : entity.name ∈ given.map Entity.name
      · simp only [hblank, hgiven]
        simp [@eq_comm _ error]
      · simp only [hblank, hgiven]
        simp

section

-- What is known among the declarations are the names of these entities.
variable {declared : Declarations} {entities : List Entity}
  (hknown : ∀ name, declared.contains name ↔ ∃ other ∈ entities, other.name = name)
include hknown

theorem propertyFlaw?_eq_some_iff (owner : Entity) (given properties : List Property)
    (error : SchemaError) :
    declared.propertyFlaw? owner.name (given.reverse.map Property.name) properties = some error ↔
      FirstError (fun before => PropertyDefect entities owner (given ++ before)) properties error := by
  induction properties generalizing given with
  | nil => simp [propertyFlaw?, not_firstError_nil]
  | cons property rest ih =>
      have hrest := ih (given ++ [property])
      simp only [List.reverse_append, List.reverse_singleton, List.singleton_append, List.map_cons,
        List.append_assoc] at hrest
      rw [firstError_cons, List.append_nil, ← hrest]
      have hmem : property.name ∈ given.reverse.map Property.name ↔
          property.name ∈ given.map Property.name := by simp
      simp only [propertyFlaw?, hmem, propertyDefect_iff, ← hknown]
      by_cases hblank : Text.isBlank property.name
      · simp [hblank, @eq_comm _ error]
      by_cases hgiven : property.name ∈ given.map Property.name
      · simp only [hblank, hgiven]
        simp [@eq_comm _ error]
      -- Both kinds of properties go on with the same rest.
      cases htype : property.type with
      | scalar kind =>
          simp only [hblank, hgiven]
          simp [PropertyType.target?]
      | entity target =>
          simp only [hblank, hgiven]
          by_cases htarget : declared.contains target
          · simp [PropertyType.target?, htarget]
          · simp [PropertyType.target?, htarget, @eq_comm _ error]

theorem supertypeFlaw?_eq_some_iff (entity : Entity) (error : SchemaError) :
    declared.supertypeFlaw? entity = some error ↔ ∃ supertype,
      entity.supertype = some supertype ∧ (¬∃ other ∈ entities, other.name = supertype) ∧
        error = .unknownSupertype entity.name supertype := by
  rw [supertypeFlaw?]
  cases entity.supertype with
  | none => simp
  | some supertype =>
      simp only [← hknown]
      by_cases hdeclared : declared.contains supertype
      · simp [hdeclared]
      · simp [hdeclared, @eq_comm _ error]

theorem entityFlaw?_eq_some_iff (entity : Entity) (error : SchemaError) :
    declared.entityFlaw? entity = some error ↔ EntityDefect entities entity error := by
  have hproperties := propertyFlaw?_eq_some_iff hknown entity [] entity.properties
  simp only [List.reverse_nil, List.map_nil, List.nil_append] at hproperties
  rw [entityFlaw?, Option.or_eq_some_iff, entityDefect_iff, Option.eq_none_iff_forall_ne_some,
    supertypeFlaw?_eq_some_iff hknown]
  simp only [ne_eq, hproperties, exists_and_left]

end

section

variable {entities : List Entity} (hdistinct : (entities.map Entity.name).Nodup)
include hdistinct

theorem names_byName_nodup : ((byName entities).entities.map Entity.name).Nodup :=
  ((byName_perm entities).map Entity.name).nodup_iff.mpr hdistinct

theorem contains_byName_iff (name : String) :
    (byName entities).contains name ↔ ∃ other ∈ entities, other.name = name := by
  simp only [contains_iff_exists (names_byName_nodup hdistinct), mem_byName]

theorem lineageFlaw?_eq_some_iff (entity : Entity) (hmem : entity ∈ entities)
    (error : SchemaError) :
    (byName entities).lineageFlaw? entity = some error ↔ LineageDefect entities entity error := by
  have hnone := lineageFlaw?_eq_none_iff (names_byName_nodup hdistinct) entity
    ((mem_byName entities entity).mpr hmem)
  rw [InheritsAmong.congr (mem_byName entities)] at hnone
  have hreport : (byName entities).lineageFlaw? entity = some error ↔
      ¬(byName entities).lineageFlaw? entity = none ∧ error = .endlessLineage entity.name := by
    rw [lineageFlaw?]
    split <;> simp [@eq_comm _ error]
  rw [hreport, hnone, not_not, lineageDefect_iff]
  simp only [exists_and_right, ← and_assoc]

theorem idFlaw?_eq_some_iff (entity : Entity) (hmem : entity ∈ entities)
    (hends : (byName entities).lineageFlaw? entity = none) (error : SchemaError) :
    (byName entities).idFlaw? entity = some error ↔ IdDefect entities entity error := by
  have hnone := idFlaw?_eq_none_iff (names_byName_nodup hdistinct) entity
    ((mem_byName entities entity).mpr hmem) hends
  rw [InheritsAmong.congr (mem_byName entities)] at hnone
  have hreport : (byName entities).idFlaw? entity = some error ↔
      ¬(byName entities).idFlaw? entity = none ∧ error = .missingId entity.name entity.id := by
    rw [idFlaw?]
    split <;> simp [@eq_comm _ error]
  rw [hreport, hnone, idDefect_iff]
  rfl

end

-- In the order of names, the first entity with a property is the least one.
theorem isFirst_iff_least {entities : List Entity}
    (hascending : entities.Pairwise fun first second => first.name < second.name)
    (p : Entity → Prop) (entity : Entity) :
    IsFirst p entities entity ↔
      entity ∈ entities ∧ p entity ∧ ∀ other ∈ entities, p other → entity.name ≤ other.name := by
  have hleast (first : Entity) (hfirst : IsFirst p entities first) :
      ∀ other ∈ entities, p other → first.name ≤ other.name := by
    obtain ⟨before, after, rfl, _, hbefore⟩ := hfirst
    intro other hmem hother
    rcases List.mem_append.mp hmem with hmem | hmem
    · exact absurd hother (hbefore other hmem)
    · rcases List.mem_cons.mp hmem with rfl | hmem
      · exact String.le_refl _
      · have hafter := (List.pairwise_append.mp hascending).2.1
        exact Std.le_of_lt ((List.pairwise_cons.mp hafter).1 other hmem)
  constructor
  · intro hfirst
    exact ⟨hfirst.mem.1, hfirst.mem.2, hleast entity hfirst⟩
  · rintro ⟨hmem, hentity, hbelow⟩
    obtain ⟨first, hfirst⟩ := exists_isFirst entity hmem hentity
    have hname : first.name = entity.name :=
      String.le_antisymm (hleast first hfirst entity hmem hentity)
        (hbelow first hfirst.mem.1 hfirst.mem.2)
    have hdistinct : (entities.map Entity.name).Nodup :=
      List.pairwise_map.mpr (hascending.imp fun hlt => String.ne_of_lt hlt)
    obtain rfl := List.inj_on_of_nodup_map hdistinct hfirst.mem.1 hmem hname
    exact hfirst

-- A check that goes through the entities by name reports the least error.
theorem findSome?_byName_eq_some_iff {entities : List Entity}
    (hdistinct : (entities.map Entity.name).Nodup) (f : Entity → Option SchemaError)
    (wrong : Entity → SchemaError → Prop)
    (hwrong : ∀ entity ∈ entities, ∀ error, f entity = some error ↔ wrong entity error)
    (error : SchemaError) :
    (byName entities).entities.findSome? f = some error ↔ LeastError entities wrong error := by
  have hsome (entity : Entity) (hmem : entity ∈ entities) :
      ¬f entity = none ↔ ∃ found, wrong entity found := by
    simp only [← hwrong entity hmem, ← ne_eq, Option.ne_none_iff_exists']
  simp only [findSome?_eq_some_iff_isFirst, isFirst_iff_least (byName_ascending entities hdistinct),
    mem_byName, LeastError]
  constructor
  · rintro ⟨entity, ⟨hmem, _, hleast⟩, hfound⟩
    refine ⟨entity, hmem, (hwrong entity hmem error).mp hfound, fun other ho found hother => ?_⟩
    exact hleast other ho ((hsome other ho).mpr ⟨found, hother⟩)
  · rintro ⟨entity, hmem, hfound, hleast⟩
    refine ⟨entity, ⟨hmem, (hsome entity hmem).mpr ⟨error, hfound⟩, fun other ho hother => ?_⟩,
      (hwrong entity hmem error).mpr hfound⟩
    obtain ⟨found, hfound⟩ := (hsome other ho).mp hother
    exact hleast other ho found hfound

theorem findSome?_byName_eq_none_iff {entities : List Entity} (f : Entity → Option SchemaError)
    (wrong : Entity → SchemaError → Prop)
    (hwrong : ∀ entity ∈ entities, ∀ error, f entity = some error ↔ wrong entity error) :
    (byName entities).entities.findSome? f = none ↔
      ∀ entity ∈ entities, ∀ error, ¬wrong entity error := by
  simp only [List.findSome?_eq_none_iff, mem_byName]
  refine forall₂_congr fun entity hmem => ?_
  simp only [Option.eq_none_iff_forall_ne_some, ne_eq, hwrong entity hmem]

-- Identifiers can only be looked for once every chain has an end.
theorem flaw?_eq_some_iff {entities : List Entity} (hdistinct : (entities.map Entity.name).Nodup)
    (error : SchemaError) :
    (byName entities).flaw? = some error ↔
      LeastError entities (EntityDefect entities) error ∨
        (∀ entity ∈ entities, ∀ other, ¬EntityDefect entities entity other) ∧
          (LeastError entities (LineageDefect entities) error ∨
            (∀ entity ∈ entities, ∀ other, ¬LineageDefect entities entity other) ∧
              LeastError entities (IdDefect entities) error) := by
  have hentity : ∀ entity ∈ entities, ∀ error,
      (byName entities).entityFlaw? entity = some error ↔ EntityDefect entities entity error :=
    fun entity _ => entityFlaw?_eq_some_iff (contains_byName_iff hdistinct) entity
  have hlineage := lineageFlaw?_eq_some_iff hdistinct
  rw [flaw?, Option.or_eq_some_iff, Option.or_eq_some_iff,
    findSome?_byName_eq_some_iff hdistinct _ _ hentity,
    findSome?_byName_eq_none_iff _ _ hentity,
    findSome?_byName_eq_some_iff hdistinct _ _ hlineage,
    findSome?_byName_eq_none_iff _ _ hlineage]
  refine or_congr_right (and_congr_right fun _ => or_congr_right (and_congr_right fun hends => ?_))
  refine findSome?_byName_eq_some_iff hdistinct _ _ (fun entity hmem => ?_) error
  have hnone : (byName entities).lineageFlaw? entity = none :=
    Option.eq_none_iff_forall_ne_some.mpr fun found hfound =>
      hends entity hmem found ((hlineage entity hmem found).mp hfound)
  exact idFlaw?_eq_some_iff hdistinct entity hmem hnone

end Declarations

namespace Schema

theorem ofEntities_eq_error_iff (entities : List Entity) (error : SchemaError) :
    ofEntities entities = .error error ↔
      Declarations.nameFlaw? [] entities = some error ∨
        Declarations.nameFlaw? [] entities = none ∧
          (Declarations.byName entities).flaw? = some error := by
  unfold ofEntities
  split
  · next found hn => simp [hn]
  · next hn =>
    dsimp only
    split
    · next found hf => simp [hn, hf]
    · next hf => simp [hn, hf]

-- Declarations make no schema exactly where something is wrong with them, and what is reported is the
-- first of all that is.
theorem ofEntities_eq_error_iff_rejected (entities : List Entity) (error : SchemaError) :
    ofEntities entities = .error error ↔ Rejected entities error := by
  have hname (other : SchemaError) : Declarations.nameFlaw? [] entities = some other ↔
      FirstError NameDefect entities other :=
    Declarations.nameFlaw?_eq_some_iff [] entities other
  have hnone : Declarations.nameFlaw? [] entities = none ↔
      ∀ other, ¬FirstError NameDefect entities other := by
    simp only [Option.eq_none_iff_forall_ne_some, ne_eq, hname]
  have hflaw (hnames : ∀ other, ¬FirstError NameDefect entities other) :=
    Declarations.flaw?_eq_some_iff
      ((Declarations.nameFlaw?_eq_none_iff entities).mp (hnone.mpr hnames)).2 error
  rw [ofEntities_eq_error_iff, hname, hnone]
  constructor
  · rintro (h | ⟨hnames, h⟩)
    · exact .name h
    · rcases (hflaw hnames).mp h with h | ⟨hentities, h | ⟨hlineages, h⟩⟩
      · exact .entity hnames h
      · exact .lineage hnames hentities h
      · exact .id hnames hentities hlineages h
  · intro h
    cases h with
    | name h => exact .inl h
    | entity hnames h => exact .inr ⟨hnames, (hflaw hnames).mpr (.inl h)⟩
    | lineage hnames hentities h =>
        exact .inr ⟨hnames, (hflaw hnames).mpr (.inr ⟨hentities, .inl h⟩)⟩
    | id hnames hentities hlineages h =>
        exact .inr ⟨hnames, (hflaw hnames).mpr (.inr ⟨hentities, .inr ⟨hlineages, h⟩⟩)⟩

-- A loop that is entered from outside is reported by the entity that leads into it, if that one comes
-- first by name. That no entity has its identifier comes later.
example : (Declarations.mk [
    ⟨"Chain", none, "id", some "Ring", []⟩,
    ⟨"Loose", none, "id", none, []⟩,
    ⟨"Ring", none, "id", some "Ring", []⟩]).flaw? = some (.endlessLineage "Chain") := by
  decide +kernel

end Schema

end Finder
