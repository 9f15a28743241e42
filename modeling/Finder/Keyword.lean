namespace Finder

inductive Verb where
  | find
  | read
  | get
  | query
  | stream
  | count
  | exists
  | other (keyword : String)
  deriving DecidableEq, Repr

namespace Verb

def ofKeyword : String → Verb
  | "find" => .find
  | "read" => .read
  | "get" => .get
  | "query" => .query
  | "stream" => .stream
  | "count" => .count
  | "exists" => .exists
  | keyword => .other keyword

def keyword : Verb → String
  | .find => "find"
  | .read => "read"
  | .get => "get"
  | .query => "query"
  | .stream => "stream"
  | .count => "count"
  | .exists => "exists"
  | .other keyword => keyword

-- Verbs that leave the data as it is. Any word that is not known may change it.
def isReading : Verb → Bool
  | .other _ => false
  | _ => true

end Verb

inductive Connector where
  | and
  | or
  deriving DecidableEq, Repr

namespace Connector

def keyword : Connector → String
  | .and => "And"
  | .or => "Or"

def ofKeyword? : String → Option Connector
  | "And" => some .and
  | "Or" => some .or
  | _ => none

end Connector

end Finder
