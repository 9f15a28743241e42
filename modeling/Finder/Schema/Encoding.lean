import Finder.Json.Tree
import Finder.Schema.Entity

namespace Finder

open Json

-- A member for a value that may be absent.
def optionalMember (key : String) : Option String → List (String × Tree)
  | none => []
  | some value => [(key, .text value)]

def PropertyType.tree : PropertyType → Tree
  | .scalar kind => .text kind.name
  | .entity target => .object [("entity", .text target)]

def Property.members (property : Property) : List (String × Tree) :=
  [("name", .text property.name), ("type", property.type.tree)]
    ++ optionalMember "column" property.column

def Property.tree (property : Property) : Tree :=
  .object property.members

def Entity.members (entity : Entity) : List (String × Tree) :=
  [("name", .text entity.name)] ++ optionalMember "table" entity.table
    ++ [("id", .text entity.id)] ++ optionalMember "extends" entity.supertype
    ++ [("properties", .list (entity.properties.map Property.tree))]

def Entity.tree (entity : Entity) : Tree :=
  .object entity.members

end Finder
