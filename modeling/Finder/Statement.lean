import Finder.Parameters

namespace Finder

structure ColumnRef where
  table : String
  column : String
  deriving DecidableEq, Repr

def ColumnRef.text (ref : ColumnRef) : String :=
  ref.table ++ "." ++ ref.column

-- A selected column and the name it has in the result.
structure Output where
  source : ColumnRef
  name : String
  deriving DecidableEq, Repr

def Output.text (output : Output) : String :=
  output.source.text ++ " AS " ++ output.name

structure Join where
  table : String
  -- The name of the joined table in the statement.
  name : String
  reference : ColumnRef
  target : ColumnRef
  deriving DecidableEq, Repr

def Join.text (join : Join) : String :=
  " LEFT OUTER JOIN " ++ join.table ++ " AS " ++ join.name ++ " ON " ++ join.reference.text
    ++ " = " ++ join.target.text

structure Condition where
  column : ColumnRef
  parameter : Parameter
  deriving DecidableEq, Repr

def Condition.text (condition : Condition) : String :=
  condition.column.text ++ " = " ++ condition.parameter.reference

structure Selection where
  outputs : List Output
  table : String
  joins : List Join
  conditions : List Condition
  deriving DecidableEq, Repr

def Selection.text (selection : Selection) : String :=
  "SELECT " ++ ", ".intercalate (selection.outputs.map Output.text) ++ " FROM " ++ selection.table
    ++ "".intercalate (selection.joins.map Join.text)
    ++ if selection.conditions = [] then ""
      else " WHERE " ++ " AND ".intercalate (selection.conditions.map Condition.text)

inductive Statement where
  | select (selection : Selection)
  | count (table : String)
  deriving DecidableEq, Repr

def Statement.text : Statement → String
  | .select selection => selection.text
  | .count table => "SELECT COUNT(*) FROM " ++ table

namespace Statement

-- The scalar properties of a referenced entity, under the name of the reference.
def childOutputs (declared : Declarations) (name child : String) : List Output :=
  ((declared.properties? child).getD []).filterMap fun found =>
    match found.property.type with
    | .scalar _ =>
        let column := found.property.columnName
        some ⟨⟨name, column⟩, name ++ "_" ++ column⟩
    | .entity _ => none

def outputs (declared : Declarations) (table : String) (found : OwnedProperty) : List Output :=
  let column := found.property.columnName
  match found.property.type with
  | .scalar _ => [⟨⟨table, column⟩, column⟩]
  | .entity child => childOutputs declared column child

-- Each property that leads to an entity asks for a join with the table of that entity, whose rows point
-- back to the root by a column that is named like the table of the root.
def joins (declared : Declarations) (table idColumn : String) :
    List OwnedProperty → Except Violation (List Join)
  | [] => .ok []
  | found :: rest =>
      match found.property.type with
      | .scalar _ => joins declared table idColumn rest
      | .entity child =>
          match declared.tableName? child with
          | none => .error (.unknownRoot child)
          | some childTable =>
              match joins declared table idColumn rest with
              | .error violation => .error violation
              | .ok later =>
                  let name := found.property.columnName
                  .ok (⟨childTable, name, ⟨name, table⟩, ⟨table, idColumn⟩⟩ :: later)

-- The conditions look the properties up again, by the names of the parameters.
def conditions (declared : Declarations) (root table : String) :
    List Parameter → Except Violation (List Condition)
  | [] => .ok []
  | parameter :: rest =>
      match declared.property? root parameter.name with
      | none => .error (.unresolved parameter.name root)
      | some found =>
          match found.property.type with
          | .entity _ => .error (.entityValued parameter.name)
          | .scalar _ =>
              match conditions declared root table rest with
              | .error violation => .error violation
              | .ok later => .ok (⟨⟨table, found.property.columnName⟩, parameter⟩ :: later)

-- All rows of the root that meet a condition for each parameter, with the rows they refer to.
def find (schema : Schema) (root : String) (parameters : Parameters) :
    Except Violation Statement :=
  match schema.tableName? root, schema.idColumn? root, schema.properties? root with
  | some table, some idColumn, some properties =>
      match joins schema.toDeclarations table idColumn properties with
      | .error violation => .error violation
      | .ok joins =>
          match conditions schema.toDeclarations root table parameters.entries with
          | .error violation => .error violation
          | .ok conditions =>
              .ok (.select {
                outputs := properties.flatMap (outputs schema.toDeclarations table)
                table
                joins
                conditions })
  | _, _, _ => .error (.unknownRoot root)

-- The number of all rows of the root. It has no conditions.
def countAll (schema : Schema) (root : String) : Except Violation Statement :=
  match schema.tableName? root with
  | some table => .ok (.count table)
  | none => .error (.unknownRoot root)

end Statement

end Finder
