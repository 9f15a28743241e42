import Finder.Statement

namespace Finder

-- Which argument goes to which parameter.
structure Binding where
  position : Nat
  parameter : Parameter
  deriving DecidableEq, Repr

structure Query where
  method : String
  root : String
  criteria : Criteria
  parameters : Parameters
  statement : Statement
  bindings : List Binding
  deriving DecidableEq, Repr

structure CompileError where
  method : String
  violation : Violation
  deriving DecidableEq, Repr

def CompileError.message (error : CompileError) : String :=
  "cannot derive query from `" ++ error.method ++ "`: " ++ error.violation.message

namespace Query

def text (query : Query) : String :=
  query.statement.text

-- The number of arguments of a call.
def arity (query : Query) : Nat :=
  query.parameters.size

-- The names of the parameters of the statement, in the order in which they are bound.
def placeholders (query : Query) : List String :=
  query.bindings.map fun binding => binding.parameter.name

def bindingsFrom (position : Nat) : List Parameter → List Binding
  | [] => []
  | parameter :: rest => ⟨position, parameter⟩ :: bindingsFrom (position + 1) rest

-- A count takes its arguments, but has no conditions to use them in.
def plan (storage : Schema) (root : String) (verb : Verb) (parameters : Parameters) :
    Except Violation (Statement × List Binding) :=
  match verb with
  | .count => (Statement.countAll storage root).map fun statement => (statement, [])
  | _ => (Statement.find storage root parameters).map fun statement =>
      (statement, bindingsFrom 0 parameters.entries)

-- Names are resolved and checked against `schema`; tables and columns are those of `storage`.
def derive (schema storage : Schema) (root method : String) : Except Violation Query := do
  let name ← MethodName.parse method
  Violation.check (Verb.ofKeyword name.verb).flaw?
  let criteria ← Criteria.resolve schema root name
  Violation.check (criteria.flaw? schema root)
  let parameters ← Parameters.ofCriteria criteria
  let (statement, bindings) ← plan storage root criteria.verb parameters
  return { method, root, criteria, parameters, statement, bindings }

def compileFor (schema storage : Schema) (root method : String) : Except CompileError Query :=
  (derive schema storage root method).mapError (CompileError.mk method)

def compile (schema : Schema) (root method : String) : Except CompileError Query :=
  compileFor schema schema root method

end Query

end Finder
