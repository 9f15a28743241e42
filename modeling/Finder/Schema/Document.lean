import Finder.Json.Choice
import Finder.Json.Record
import Finder.Schema

namespace Finder

open Json

-- What a record has of a property so far.
structure PropertyFields where
  name : Option String
  type : Option PropertyType
  column : Option (Option String)

structure EntityFields where
  name : Option String
  table : Option (Option String)
  id : Option String
  supertype : Option (Option String)
  properties : Option (List Property)

namespace PropertyType

-- A document may open this many levels, from its own to the innermost.
def greatestDepth : Nat := 127

-- A type stands in a property, in a list, in an entity, in a list, in a document.
def levelsAbove : Nat := 5

def ofWord? (word : StringLiteral) : Option PropertyType :=
  match word.text with
  | .error _ => none
  | .ok word => (Scalar.ofName? word).map .scalar

-- The target, of all members with the key `entity`.
def targets : List (StringLiteral × Draft) → List Draft
  | [] => []
  | (key, value) :: rest =>
      if key.text.toOption = some "entity" then value :: targets rest else targets rest

def ofMembers? (members : List (StringLiteral × Draft)) : Option PropertyType :=
  match members, targets members with
  | [(key, .null)], _ => ofWord? key
  | _, [.string target] => target.text.toOption.map .entity
  | _, _ => none

-- A scalar by its name, or a reference to an entity.
def ofDraft? : Draft → Option PropertyType
  | .string word => ofWord? word
  | .object members _ => ofMembers? members
  | _ => none

-- The value is read to its end first, so that a fault in it comes before a wrong form.
def read : Reader PropertyType := fun draft => do
  Fault.check (draft.readFault? (greatestDepth - levelsAbove))
  match ofDraft? draft with
  | some type => return type
  | none => .error (.mismatch (.noChoice "PropertyType"))

end PropertyType

namespace Property

def form : RecordForm PropertyFields Property where
  name := "PropertyMeta"
  fields := [
    ⟨"name", true, (·.name.isSome), fun fields draft => do
      return { fields with name := some (← readText draft) }⟩,
    ⟨"type", true, (·.type.isSome), fun fields draft => do
      return { fields with type := some (← PropertyType.read draft) }⟩,
    ⟨"column", false, (·.column.isSome), fun fields draft => do
      return { fields with column := some (← readOptional readText draft) }⟩]
  start := ⟨none, none, none⟩
  finish fields := do
    return {
      name := ← required "name" fields.name
      type := ← required "type" fields.type
      column := fields.column.getD none }

end Property

namespace Entity

def form : RecordForm EntityFields Entity where
  name := "EntityType"
  fields := [
    ⟨"name", true, (·.name.isSome), fun fields draft => do
      return { fields with name := some (← readText draft) }⟩,
    ⟨"table", false, (·.table.isSome), fun fields draft => do
      return { fields with table := some (← readOptional readText draft) }⟩,
    ⟨"id", true, (·.id.isSome), fun fields draft => do
      return { fields with id := some (← readText draft) }⟩,
    ⟨"extends", false, (·.supertype.isSome), fun fields draft => do
      return { fields with supertype := some (← readOptional readText draft) }⟩,
    ⟨"properties", false, (·.properties.isSome), fun fields draft => do
      return { fields with properties := some (← readList Property.form.read draft) }⟩]
  start := ⟨none, none, none, none, none⟩
  finish fields := do
    return {
      name := ← required "name" fields.name
      table := fields.table.getD none
      id := ← required "id" fields.id
      supertype := fields.supertype.getD none
      properties := fields.properties.getD [] }

-- All declarations of a document.
def listForm : RecordForm (Option (List Entity)) (List Entity) where
  name := "MappingDocument"
  fields := [⟨"entities", true, Option.isSome, fun _ draft => do
    return some (← readList Entity.form.read draft)⟩]
  start := none
  finish := required "entities"

end Entity

-- Why a document gives no schema.
inductive LoadError where
  | unreadable (path reason : String)
  | malformed (cause : Json.Error)
  | unsound (cause : SchemaError)
  deriving DecidableEq, Repr

def LoadError.message : LoadError → String
  | .unreadable path reason => "cannot read mapping `" ++ path ++ "`: " ++ reason
  | .malformed cause => "invalid mapping document: " ++ cause.message
  | .unsound cause => cause.message

namespace Schema

def ofDocument (text : String) : Except LoadError Schema := do
  let entities ← (readDocument Entity.listForm.read text).mapError .malformed
  (ofEntities entities).mapError .unsound

-- What is wrong with a file that holds no text.
def notText : String :=
  "stream did not contain valid UTF-8"

def ofFile (path : String) (content : ByteArray) : Except LoadError Schema :=
  match String.fromUTF8? content with
  | none => .error (.unreadable path notText)
  | some text => ofDocument text

end Schema

end Finder
