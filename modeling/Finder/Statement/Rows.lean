import Finder.Database
import Finder.Statement

namespace Finder

-- Why a statement gives no rows.
inductive Failure where
  | missingTable (name : String)
  | missingColumn (ref : ColumnRef)
  | ambiguousColumn (ref : ColumnRef)
  -- A join may refer to tables before it and to its own.
  | laterTable (ref : ColumnRef)
  | noOutput
  -- A row could not be turned into a result.
  | unmapped
  deriving DecidableEq, Repr

-- A table under the name that it has in a statement.
structure Source where
  name : String
  table : Table
  deriving DecidableEq, Repr

-- Where a column is found: the position of its source, and its own in the row.
structure Place where
  source : Nat
  column : Nat
  deriving DecidableEq, Repr

-- One row of each source, in the order of the sources.
abbrev Combination : Type :=
  List (List Value)

-- A row of a result: the names of the outputs and their values.
abbrev Row : Type :=
  List (String × Value)

def cell (combination : Combination) (place : Place) : Value :=
  ((combination[place.source]?).bind fun row => row[place.column]?).getD .null

namespace Source

-- All places that a column may be at, for sources that start at `position`.
def placesFrom (ref : ColumnRef) (position : Nat) : List Source → List Place
  | [] => []
  | source :: rest =>
      let later := placesFrom ref (position + 1) rest
      if source.name = ref.table then
        match source.table.columns.idxOf? ref.column with
        | some column => ⟨position, column⟩ :: later
        | none => later
      else later

def locate (sources : List Source) (ref : ColumnRef) : Except Failure Place :=
  match placesFrom ref 0 sources with
  | [place] => .ok place
  | [] => .error (.missingColumn ref)
  | _ => .error (.ambiguousColumn ref)

def locateAll (sources : List Source) : List ColumnRef → Except Failure (List Place)
  | [] => .ok []
  | ref :: rest => do
      let place ← locate sources ref
      let places ← locateAll sources rest
      return place :: places

end Source

-- A join with its columns found.
structure LocatedJoin where
  table : Table
  reference : Place
  target : Place
  deriving DecidableEq, Repr

namespace LocatedJoin

def meets (join : LocatedJoin) (combination : Combination) : Bool :=
  (cell combination join.reference).equals (cell combination join.target)

-- A combination is lost nowhere: without a matching row it goes on with nulls.
def extend (join : LocatedJoin) (combination : Combination) : List Combination :=
  let extended := (join.table.rows.map fun row => combination ++ [row]).filter join.meets
  if extended.isEmpty then [combination ++ [join.table.nullRow]] else extended

def extendAll (combinations : List Combination) : List LocatedJoin → List Combination
  | [] => combinations
  | join :: rest => extendAll (combinations.flatMap join.extend) rest

end LocatedJoin

namespace Selection

def tableOf (database : Database) (name : String) : Except Failure Table :=
  match database.table? name with
  | some table => .ok table
  | none => .error (.missingTable name)

def joinSources (database : Database) : List Join → Except Failure (List Source)
  | [] => .ok []
  | join :: rest => do
      let table ← tableOf database join.table
      let sources ← joinSources database rest
      return ⟨join.name, table⟩ :: sources

def sources (selection : Selection) (database : Database) : Except Failure (List Source) := do
  let root ← tableOf database selection.table
  let joined ← joinSources database selection.joins
  return ⟨selection.table, root⟩ :: joined

-- The place of a column that a join refers to, whose own source is at `position`.
def locateUpTo (sources : List Source) (position : Nat) (ref : ColumnRef) :
    Except Failure Place := do
  let place ← Source.locate sources ref
  if position < place.source then .error (.laterTable ref) else return place

def locateJoins (sources : List Source) (database : Database) (position : Nat) :
    List Join → Except Failure (List LocatedJoin)
  | [] => .ok []
  | join :: rest => do
      let table ← tableOf database join.table
      let reference ← locateUpTo sources position join.reference
      let target ← locateUpTo sources position join.target
      let later ← locateJoins sources database (position + 1) rest
      return ⟨table, reference, target⟩ :: later

-- A parameter that was given no value is null.
def argument (arguments : List (String × Value)) (parameter : Parameter) : Value :=
  (arguments.lookup parameter.name).getD .null

def meets (arguments : List (String × Value)) (combination : Combination)
    (conditions : List (Condition × Place)) : Bool :=
  conditions.all fun (condition, place) =>
    (cell combination place).equals (argument arguments condition.parameter)

def outputRow (combination : Combination) (outputs : List (Output × Place)) : Row :=
  outputs.map fun (output, place) => (output.name, cell combination place)

def rows (selection : Selection) (database : Database) (arguments : List (String × Value)) :
    Except Failure (List Row) := do
  if selection.outputs = [] then .error .noOutput
  let root ← tableOf database selection.table
  let sources ← selection.sources database
  let joins ← locateJoins sources database 1 selection.joins
  let outputs ← Source.locateAll sources (selection.outputs.map Output.source)
  let conditions ← Source.locateAll sources (selection.conditions.map Condition.column)
  let combinations := LocatedJoin.extendAll (root.rows.map fun row => [row]) joins
  let kept := combinations.filter fun combination =>
    meets arguments combination (selection.conditions.zip conditions)
  return kept.map fun combination => outputRow combination (selection.outputs.zip outputs)

end Selection

-- The number of rows of a table.
def Database.size (database : Database) (table : String) : Except Failure Nat :=
  (Selection.tableOf database table).map fun found => found.rows.length

end Finder
