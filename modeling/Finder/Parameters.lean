import Finder.Criteria

namespace Finder

-- A parameter is named like the property that it is compared with.
structure Parameter where
  name : String
  type : PropertyType
  deriving DecidableEq, Repr

-- The reference to the parameter in a statement.
def Parameter.reference (parameter : Parameter) : String :=
  ":" ++ parameter.name

structure Parameters where
  entries : List Parameter
  deriving DecidableEq, Repr

namespace Parameters

def empty : Parameters :=
  ⟨[]⟩

def single (parameter : Parameter) : Parameters :=
  ⟨[parameter]⟩

def get? (parameters : Parameters) (name : String) : Option Parameter :=
  parameters.entries.find? fun parameter => parameter.name == name

def contains (parameters : Parameters) (name : String) : Bool :=
  (parameters.get? name).isSome

def names (parameters : Parameters) : List String :=
  parameters.entries.map Parameter.name

def size (parameters : Parameters) : Nat :=
  parameters.entries.length

-- A name that is taken is refused.
def insert? (parameters : Parameters) (parameter : Parameter) : Option Parameters :=
  if parameters.contains parameter.name then none
  else some ⟨parameters.entries ++ [parameter]⟩

-- The set after one more parameter was offered to it, and the parameter if it was handed back.
structure Insertion where
  parameters : Parameters
  refused : Option Parameter
  deriving DecidableEq, Repr

-- A parameter that is refused is handed back, and the set stays as it is.
def insert (parameters : Parameters) (parameter : Parameter) : Insertion :=
  match parameters.insert? parameter with
  | none => ⟨parameters, some parameter⟩
  | some inserted => ⟨inserted, none⟩

def insertAll (parameters : Parameters) : List Parameter → Except Violation Parameters
  | [] => .ok parameters
  | parameter :: rest =>
      let insertion := parameters.insert parameter
      match insertion.refused with
      | some refused => .error (.repeatedProperty refused.name)
      | none => insertion.parameters.insertAll rest

def ofPredicate (predicate : Predicate) : Parameter :=
  ⟨predicate.leaf, predicate.type⟩

-- Where there is one predicate, no name can be taken.
def ofCriteria (criteria : Criteria) : Except Violation Parameters :=
  match criteria.predicates with
  | [only] => .ok (single (ofPredicate only))
  | predicates => empty.insertAll (predicates.map ofPredicate)

end Parameters

end Finder
