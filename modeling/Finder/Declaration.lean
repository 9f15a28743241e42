import Finder.Json.Choice
import Finder.Json.Record

namespace Finder

inductive Shape where
  -- At most one row.
  | single
  | collection
  deriving DecidableEq, Repr

def Shape.name : Shape → String
  | .single => "single"
  | .collection => "collection"

def Shape.form : Json.ChoiceForm Shape :=
  ⟨[Shape.single, Shape.collection].map fun shape => (shape.name, shape)⟩

structure Declaration where
  method : String
  root : String
  shape : Shape
  deriving DecidableEq, Repr

-- What a record has of a declaration so far.
structure DeclarationFields where
  method : Option String
  root : Option String
  shape : Option Shape

namespace Declaration

open Json

def form : RecordForm DeclarationFields Declaration where
  name := "QueryMethod"
  fields := [
    ⟨"name", true, (·.method.isSome), fun fields draft => do
      return { fields with method := some (← readText draft) }⟩,
    ⟨"domain_type", true, (·.root.isSome), fun fields draft => do
      return { fields with root := some (← readText draft) }⟩,
    ⟨"result_shape", true, (·.shape.isSome), fun fields draft => do
      return { fields with shape := some (← Shape.form.read draft) }⟩]
  start := ⟨none, none, none⟩
  finish fields := do
    return {
      method := ← required "name" fields.method
      root := ← required "domain_type" fields.root
      shape := ← required "result_shape" fields.shape }

def ofDocument (text : String) : Except Json.Error Declaration :=
  readDocument form.read text

end Declaration

end Finder
