import Finder.Predicate

namespace Finder

structure Criteria where
  verb : Verb
  subject : Option String
  predicates : List Predicate
  connectors : List Connector
  deriving DecidableEq, Repr

namespace Criteria

def resolveParts (declared : Declarations) (root : String) :
    List String → Except Violation (List Predicate)
  | [] => .ok []
  | part :: rest =>
      match resolvePart declared root part.toList with
      | none => .error (.unresolved part root)
      | some predicate =>
          match resolveParts declared root rest with
          | .error violation => .error violation
          | .ok predicates => .ok (predicate :: predicates)

def resolve (schema : Schema) (root : String) (name : MethodName) : Except Violation Criteria :=
  if schema.contains root then
    match resolveParts schema.toDeclarations root name.parts with
    | .error violation => .error violation
    | .ok predicates =>
        .ok ⟨Verb.ofKeyword name.verb, name.subject, predicates, name.connectors⟩
  else .error (.unknownRoot root)

def parse (schema : Schema) (root method : String) : Except Violation Criteria :=
  (MethodName.parse method).bind (resolve schema root)

-- Parts can only be joined by `And`.
def connectorFlaw? (criteria : Criteria) : Option Violation :=
  (criteria.connectors.find? fun connector => connector != .and).map .unsupportedConnector

-- A property of the aggregate is named directly on the root and declared by it or a supertype. A
-- path through a reference leaves the aggregate, whoever declares its last step.
def predicateFlaw? (schema : Schema) (root : String) (predicate : Predicate) : Option Violation :=
  if 1 < predicate.path.length then
    let owner := (schema.property? root predicate.first).bind fun found =>
      found.property.type.target?
    some (.outsideAggregate predicate.dotted (owner.getD predicate.owner) root)
  else if schema.isAssignable predicate.owner root then none
  else some (.outsideAggregate predicate.dotted predicate.owner root)

def boundaryFlaw? (schema : Schema) (root : String) (criteria : Criteria) : Option Violation :=
  criteria.predicates.findSome? (predicateFlaw? schema root)

-- References are joined and not stored in a column of the root, so they cannot be compared.
def columnFlaw? (criteria : Criteria) : Option Violation :=
  (criteria.predicates.find? fun predicate => predicate.type.target?.isSome).map fun predicate =>
    .entityValued predicate.dotted

def arityFlaw? (criteria : Criteria) : Option Violation :=
  if maxPredicates < criteria.predicates.length then
    some (.tooManyPredicates criteria.predicates.length)
  else none

def emptinessFlaw? (criteria : Criteria) : Option Violation :=
  if criteria.predicates = [] then some .noCondition else none

-- The first broken rule.
def flaw? (schema : Schema) (root : String) (criteria : Criteria) : Option Violation :=
  criteria.connectorFlaw?.or <|
    (criteria.boundaryFlaw? schema root).or <|
      criteria.columnFlaw?.or <|
        criteria.arityFlaw?.or criteria.emptinessFlaw?

end Criteria

-- Only verbs that leave the data as it is make queries.
def Verb.flaw? (verb : Verb) : Option Violation :=
  if verb.isReading then none else some (.modifyingVerb verb.keyword)

end Finder
