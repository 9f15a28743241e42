import Finder.Schema.Declarations
import Finder.Text.CodeSet

namespace Finder

inductive SchemaError where
  | blankEntityName
  | repeatedEntity (name : String)
  | blankPropertyName (entity : String)
  | repeatedProperty (entity property : String)
  | unknownTarget (entity property target : String)
  | unknownSupertype (entity supertype : String)
  | endlessLineage (entity : String)
  | missingId (entity id : String)
  deriving DecidableEq, Repr

def SchemaError.message : SchemaError → String
  | .blankEntityName => "entity name must not be empty"
  | .repeatedEntity name => "entity declared twice: " ++ name
  | .blankPropertyName entity =>
      "entity `" ++ entity ++ "` declares a property with an empty name"
  | .repeatedProperty entity property =>
      "entity `" ++ entity ++ "` declares property `" ++ property ++ "` twice"
  | .unknownTarget entity property target =>
      "property `" ++ entity ++ "." ++ property ++ "` references unknown entity `" ++ target ++ "`"
  | .unknownSupertype entity supertype =>
      "entity `" ++ entity ++ "` extends unknown type `" ++ supertype ++ "`"
  | .endlessLineage entity => "inheritance cycle detected starting at `" ++ entity ++ "`"
  | .missingId entity id => "entity `" ++ entity ++ "` has no id property `" ++ id ++ "`"

namespace Declarations

-- `earlier` holds the names of the properties before.
def propertyFlaw? (declared : Declarations) (entity : String) (earlier : List String) :
    List Property → Option SchemaError
  | [] => none
  | property :: rest =>
      if Text.isBlank property.name then some (.blankPropertyName entity)
      else if property.name ∈ earlier then some (.repeatedProperty entity property.name)
      else match property.type.target? with
        | some target =>
            if declared.contains target then
              declared.propertyFlaw? entity (property.name :: earlier) rest
            else some (.unknownTarget entity property.name target)
        | none => declared.propertyFlaw? entity (property.name :: earlier) rest

def supertypeFlaw? (declared : Declarations) (entity : Entity) : Option SchemaError :=
  match entity.supertype with
  | none => none
  | some supertype =>
      if declared.contains supertype then none
      else some (.unknownSupertype entity.name supertype)

def entityFlaw? (declared : Declarations) (entity : Entity) : Option SchemaError :=
  (declared.propertyFlaw? entity.name [] entity.properties).or (declared.supertypeFlaw? entity)

-- Whether the lineage of an entity ends within so many steps.
def endsWithin (declared : Declarations) : Nat → Entity → Bool
  | 0, entity => (declared.supertype? entity).isNone
  | steps + 1, entity =>
      match declared.supertype? entity with
      | none => true
      | some supertype => declared.endsWithin steps supertype

def lineageFlaw? (declared : Declarations) (entity : Entity) : Option SchemaError :=
  if declared.endsWithin declared.entities.length entity then none
  else some (.endlessLineage entity.name)

def idFlaw? (declared : Declarations) (entity : Entity) : Option SchemaError :=
  if (declared.property? entity.name entity.id).isSome then none
  else some (.missingId entity.name entity.id)

-- Lineages are looked at once all names are known, and identifiers once all lineages end.
def flaw? (declared : Declarations) : Option SchemaError :=
  (declared.entities.findSome? declared.entityFlaw?).or <|
    (declared.entities.findSome? declared.lineageFlaw?).or <|
      declared.entities.findSome? declared.idFlaw?

-- Entity names are checked in the order of declaration, all else in the order of names.
def nameFlaw? (earlier : List String) : List Entity → Option SchemaError
  | [] => none
  | entity :: rest =>
      if Text.isBlank entity.name then some .blankEntityName
      else if entity.name ∈ earlier then some (.repeatedEntity entity.name)
      else nameFlaw? (entity.name :: earlier) rest

def byName (entities : List Entity) : Declarations :=
  ⟨entities.mergeSort fun first second => first.name ≤ second.name⟩

end Declarations

-- Declarations that were checked. What the lookups rely on is part of the type.
structure Schema extends Declarations where
  ascending : entities.Pairwise fun first second => first.name < second.name
  named : ∀ entity ∈ entities, Text.isBlank entity.name = false
  flawless : toDeclarations.flaw? = none
  deriving DecidableEq

namespace Declarations

theorem mem_byName (entities : List Entity) (entity : Entity) :
    entity ∈ (byName entities).entities ↔ entity ∈ entities :=
  List.mem_mergeSort

theorem nameFlaw?_eq_none (earlier : List String) (entities : List Entity)
    (h : nameFlaw? earlier entities = none) :
    (∀ entity ∈ entities, Text.isBlank entity.name = false ∧ entity.name ∉ earlier) ∧
      (entities.map Entity.name).Nodup := by
  induction entities generalizing earlier with
  | nil => simp
  | cons entity rest ih =>
      simp only [nameFlaw?] at h
      split at h
      · cases h
      · next hb =>
        split at h
        · cases h
        · next hm =>
          have hr := ih _ h
          refine ⟨?_, ?_⟩
          · intro other ho
            cases ho with
            | head => exact ⟨by simpa using hb, hm⟩
            | tail _ ho =>
                have hh := hr.1 other ho
                exact ⟨hh.1, fun hin => hh.2 (List.mem_cons_of_mem _ hin)⟩
          · simp only [List.map_cons, List.nodup_cons]
            refine ⟨?_, hr.2⟩
            intro hin
            obtain ⟨other, ho, hn⟩ := List.mem_map.mp hin
            exact (hr.1 other ho).2 (by simp [hn])

theorem byName_ascending (entities : List Entity) (h : (entities.map Entity.name).Nodup) :
    (byName entities).entities.Pairwise fun first second => first.name < second.name := by
  have hs : (byName entities).entities.Pairwise fun first second => first.name ≤ second.name := by
    have hp : (byName entities).entities.Pairwise
        fun first second => decide (first.name ≤ second.name) = true := by
      apply List.pairwise_mergeSort
      · intro a b c hab hbc
        simp only [decide_eq_true_eq] at *
        exact String.le_trans hab hbc
      · intro a b
        simp only [Bool.or_eq_true, decide_eq_true_eq]
        exact String.le_total a.name b.name
    exact hp.imp (by simp)
  have hn : ((byName entities).entities.map Entity.name).Nodup :=
    ((List.mergeSort_perm entities _).map Entity.name).nodup_iff.mpr h
  have hne : (byName entities).entities.Pairwise fun first second => first.name ≠ second.name :=
    List.pairwise_map.mp hn
  refine (hs.and hne).imp ?_
  intro a b hab
  exact Std.lt_of_le_of_ne hab.1 hab.2

end Declarations

namespace Schema

def ofEntities (entities : List Entity) : Except SchemaError Schema :=
  match hn : Declarations.nameFlaw? [] entities with
  | some error => .error error
  | none =>
      let declared := Declarations.byName entities
      match hf : declared.flaw? with
      | some error => .error error
      | none =>
          have names := Declarations.nameFlaw?_eq_none [] entities hn
          .ok { declared with
            ascending := Declarations.byName_ascending entities names.2
            named := fun entity he =>
              (names.1 entity ((Declarations.mem_byName entities entity).mp he)).1
            flawless := hf }

end Schema

end Finder
