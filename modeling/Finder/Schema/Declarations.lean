import Finder.Schema.Entity

namespace Finder

structure Declarations where
  entities : List Entity
  deriving DecidableEq, Repr

-- A property together with the entity that declares it.
structure OwnedProperty where
  property : Property
  owner : String
  deriving DecidableEq, Repr

namespace Declarations

def entity? (declared : Declarations) (name : String) : Option Entity :=
  declared.entities.find? fun entity => entity.name == name

def contains (declared : Declarations) (name : String) : Bool :=
  (declared.entity? name).isSome

def supertype? (declared : Declarations) (entity : Entity) : Option Entity :=
  entity.supertype.bind declared.entity?

-- The entity, and then its supertypes up to `steps` of them.
def lineageWithin (declared : Declarations) : Nat → Entity → List Entity
  | 0, entity => [entity]
  | steps + 1, entity =>
      match declared.supertype? entity with
      | none => [entity]
      | some supertype => entity :: declared.lineageWithin steps supertype

-- A lineage without a cycle meets each entity at most once, so that as many steps as there are
-- entities reach its end.
def lineageOf (declared : Declarations) (entity : Entity) : List Entity :=
  declared.lineageWithin declared.entities.length entity

-- The entity of this name and its supertypes, the nearest first.
def lineage? (declared : Declarations) (name : String) : Option (List Entity) :=
  (declared.entity? name).map declared.lineageOf

-- A redeclared property takes the place of the inherited one.
def place (property : OwnedProperty) : List OwnedProperty → List OwnedProperty
  | [] => [property]
  | other :: rest =>
      if other.property.name = property.property.name then property :: rest
      else other :: place property rest

def placeAll (inherited : List OwnedProperty) (entity : Entity) : List OwnedProperty :=
  entity.properties.foldl (fun placed property => place ⟨property, entity.name⟩ placed) inherited

-- All properties visible on an entity, those of its supertypes first.
def properties? (declared : Declarations) (name : String) : Option (List OwnedProperty) :=
  (declared.lineage? name).map fun lineage => lineage.reverse.foldl placeAll []

def ownedBy? (name : String) (entity : Entity) : Option OwnedProperty :=
  (entity.own? name).map fun property => ⟨property, entity.name⟩

-- The visible property of this name: the declaration nearest to the entity.
def property? (declared : Declarations) (entity name : String) : Option OwnedProperty :=
  (declared.lineage? entity).bind fun lineage => lineage.findSome? (ownedBy? name)

-- Whether `target` is `source` or one of its supertypes.
def isAssignable (declared : Declarations) (target source : String) : Bool :=
  (declared.lineage? source).any fun lineage => lineage.any fun entity => entity.name == target

def tableName? (declared : Declarations) (name : String) : Option String :=
  (declared.entity? name).map Entity.tableName

def idColumn? (declared : Declarations) (name : String) : Option String :=
  (declared.entity? name).bind fun entity =>
    (declared.property? name entity.id).map fun id => id.property.columnName

end Declarations

end Finder
