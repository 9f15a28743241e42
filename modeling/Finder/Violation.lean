import Finder.Keyword

namespace Finder

inductive Violation where
  | unexpectedCharacter (found : Char)
  | missingVerb
  | modifyingVerb (keyword : String)
  | unknownRoot (root : String)
  | unresolved (part root : String)
  | unsupportedConnector (connector : Connector)
  | outsideAggregate (path owner root : String)
  | entityValued (path : String)
  | tooManyPredicates (count : Nat)
  | noCondition
  | repeatedProperty (name : String)
  deriving DecidableEq, Repr

-- The number of predicates that one query may have.
def maxPredicates : Nat := 2

namespace Violation

-- A stable word for the kind of violation, for log lines and reports.
def code : Violation → String
  | .unexpectedCharacter _ | .missingVerb => "malformed_method_name"
  | .modifyingVerb _ => "unsupported_modifying_query"
  | .unknownRoot _ => "unknown_root_type"
  | .unresolved _ _ => "unresolvable_property"
  | .unsupportedConnector _ => "unsupported_connector"
  | .outsideAggregate _ _ _ => "cross_aggregate"
  | .entityValued _ => "entity_valued_property"
  | .tooManyPredicates _ => "too_many_predicates"
  | .noCondition => "empty_query"
  | .repeatedProperty _ => "duplicate_property"

def message : Violation → String
  | .unexpectedCharacter found =>
      "malformed method name: unexpected character `" ++ found.toString ++ "`"
  | .missingVerb => "malformed method name: expected a lower-case verb such as `find`"
  | .modifyingVerb keyword => "verb `" ++ keyword ++ "` is not a read-only query verb"
  | .unknownRoot root => "aggregate root `" ++ root ++ "` is not mapped"
  | .unresolved part root => "no property `" ++ part ++ "` found on `" ++ root ++ "`"
  | .unsupportedConnector connector =>
      "connector `" ++ connector.keyword ++ "` is not supported; only `And` may join predicates"
  | .outsideAggregate path owner root =>
      "property `" ++ path ++ "` is owned by `" ++ owner ++ "`, outside aggregate root `" ++ root
        ++ "`"
  | .entityValued path =>
      "property `" ++ path ++ "` references an entity; only column properties can be compared"
  | .tooManyPredicates count =>
      toString count ++ " predicates found; at most " ++ toString maxPredicates ++ " are supported"
  | .noCondition => "no property condition found after the verb"
  | .repeatedProperty name => "property `" ++ name ++ "` is referenced more than once"

-- Goes on only where no flaw was found.
def check : Option Violation → Except Violation Unit
  | none => .ok ()
  | some violation => .error violation

end Violation

end Finder
