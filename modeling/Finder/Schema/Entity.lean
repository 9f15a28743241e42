import Finder.Text.SnakeCase

namespace Finder

inductive Scalar where
  | integer
  | text
  | real
  | boolean
  | blob
  deriving DecidableEq, Repr

def Scalar.name : Scalar → String
  | .integer => "integer"
  | .text => "text"
  | .real => "real"
  | .boolean => "boolean"
  | .blob => "blob"

def Scalar.all : List Scalar :=
  [.integer, .text, .real, .boolean, .blob]

def Scalar.ofName? (name : String) : Option Scalar :=
  Scalar.all.find? fun scalar => scalar.name == name

inductive PropertyType where
  | scalar (kind : Scalar)
  | entity (target : String)
  deriving DecidableEq, Repr

def PropertyType.target? : PropertyType → Option String
  | .scalar _ => none
  | .entity target => some target

def PropertyType.text : PropertyType → String
  | .scalar kind => kind.name
  | .entity target => "entity " ++ target

structure Property where
  name : String
  type : PropertyType
  column : Option String
  deriving DecidableEq, Repr

def Property.columnName (property : Property) : String :=
  property.column.getD (Text.snakeCase property.name)

structure Entity where
  name : String
  table : Option String
  -- The name of the property that identifies a row.
  id : String
  supertype : Option String
  properties : List Property
  deriving DecidableEq, Repr

def Entity.tableName (entity : Entity) : String :=
  entity.table.getD (Text.snakeCase entity.name)

-- The property that the entity declares itself under this name.
def Entity.own? (entity : Entity) (name : String) : Option Property :=
  entity.properties.find? fun property => property.name == name

end Finder
