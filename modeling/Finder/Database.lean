import Finder.Real.Binary64

namespace Finder

inductive Value where
  | null
  | integer (value : Int)
  | real (value : Binary64)
  | text (value : String)
  | blob (bytes : List UInt8)
  deriving DecidableEq, Repr

-- Null equals nothing, not even itself. Numbers are compared by what they amount to; all else has to
-- be of the same kind.
def Value.equals : Value → Value → Bool
  | .integer first, .integer second => first == second
  | .integer first, .real second => second.equalsInt first
  | .real first, .integer second => first.equalsInt second
  | .real first, .real second => first.same second
  | .text first, .text second => first == second
  | .blob first, .blob second => first == second
  | _, _ => false

structure Table where
  name : String
  columns : List String
  rows : List (List Value)
  deriving DecidableEq, Repr

def Table.insert (table : Table) (row : List Value) : Table :=
  { table with rows := table.rows ++ [row] }

-- The row that stands in where no row is found.
def Table.nullRow (table : Table) : List Value :=
  table.columns.map fun _ => .null

structure Database where
  tables : List Table
  deriving DecidableEq, Repr

namespace Database

def table? (database : Database) (name : String) : Option Table :=
  database.tables.find? fun table => table.name == name

def insert (database : Database) (name : String) (row : List Value) : Database :=
  ⟨database.tables.map fun table => if table.name = name then table.insert row else table⟩

end Database

end Finder
