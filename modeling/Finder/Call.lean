import Finder.Declaration
import Finder.Log.Event
import Finder.Statement.Rows

namespace Finder

-- Why a call of a query gives no result.
inductive CallError where
  | wrongArgumentCount (method : String) (expected actual : Nat)
  | manyRows (method : String) (count : Nat)
  | failed (cause : Failure)
  deriving DecidableEq, Repr

-- A failure of the database has a text of its own, which is not known here.
def CallError.message? : CallError → Option String
  | .wrongArgumentCount method expected actual =>
      some ("`" ++ method ++ "` expects " ++ toString expected ++ " argument(s) but "
        ++ toString actual ++ " were supplied")
  | .manyRows method count =>
      some ("`" ++ method ++ "` expected at most one row but found " ++ toString count)
  | .failed _ => none

inductive Outcome (α : Type) where
  | count (rows : Nat)
  | exists (found : Bool)
  | single (row : Option α)
  | collection (rows : List α)
  deriving DecidableEq, Repr

-- All rows of an outcome. Counts and answers have none.
def Outcome.rows {α : Type} : Outcome α → List α
  | .count _ | .exists _ => []
  | .single row => row.toList
  | .collection rows => rows

-- What a call gives, and what it reports.
structure Reply (α : Type) where
  result : Except CallError (Outcome α)
  event : Option Event

namespace Query

-- Pairs each parameter of the statement with its argument.
def bind {α : Type} (query : Query) (arguments : List α) :
    Except CallError (List (String × α)) :=
  if arguments.length = query.arity then
    .ok (query.bindings.filterMap fun binding =>
      arguments[binding.position]?.map fun argument => (binding.parameter.name, argument))
  else .error (.wrongArgumentCount query.method query.arity arguments.length)

-- Bound arguments under the references by which the text of a statement asks for them.
def supplied {α : Type} (bound : List (String × α)) : List (String × α) :=
  bound.map fun (name, argument) => (":" ++ name, argument)

def mapRows {α : Type} (mapper : Row → Option α) : List Row → Except Failure (List α)
  | [] => .ok []
  | row :: rest =>
      match mapper row with
      | none => .error .unmapped
      | some mapped => (mapRows mapper rest).map (mapped :: ·)

def shaped {α : Type} (query : Query) (shape : Shape) (rows : List α) :
    Except CallError (Outcome α) :=
  match shape, rows with
  | .collection, rows => .ok (.collection rows)
  | .single, [] => .ok (.single none)
  | .single, [row] => .ok (.single (some row))
  | .single, rows => .error (.manyRows query.method rows.length)

-- Rows are mapped before the shape is looked at. Only the question whether there are any leaves the
-- mapper aside.
def call {α : Type} (query : Query) (shape : Shape) (database : Database)
    (mapper : Row → Option α) (arguments : List Value) : Reply α :=
  match query.bind arguments with
  | .error error => ⟨.error error, none⟩
  | .ok bound =>
      match query.statement with
      | .count table =>
          match database.size table with
          | .error failure => ⟨.error (.failed failure), none⟩
          | .ok count => ⟨.ok (.count count), some (.rowsCounted bound.length)⟩
      | .select selection =>
          match selection.rows database bound with
          | .error failure => ⟨.error (.failed failure), none⟩
          | .ok rows =>
              let event := Event.rowsRead bound.length rows.length
              if query.criteria.verb = .exists then ⟨.ok (.exists !rows.isEmpty), some event⟩
              else
                match mapRows mapper rows with
                | .error failure => ⟨.error (.failed failure), none⟩
                | .ok mapped => ⟨query.shaped shape mapped, some event⟩

end Query

end Finder
