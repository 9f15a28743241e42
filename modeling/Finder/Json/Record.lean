import Finder.Json.Reader

namespace Finder.Json

-- One field of a record, whose values are collected in a `σ`.
structure Field (σ : Type) where
  name : String
  -- Whether a list that ends before the field lacks it.
  required : Bool
  isSet : σ → Bool
  read : σ → Reader σ

-- A record is written as an object, whose unknown members are skipped, or as the list of its fields.
-- Fields that were read so far are collected from `start`; a record is made of them at the end.
structure RecordForm (σ α : Type) where
  name : String
  fields : List (Field σ)
  start : σ
  finish : σ → Except Error α

-- The value of a field that a record cannot do without.
def required {α : Type} (name : String) : Option α → Except Error α
  | some value => .ok value
  | none => .error (.mismatch (.missingField name))

namespace RecordForm

variable {σ α : Type}

def field? (form : RecordForm σ α) (name : String) : Option (Field σ) :=
  form.fields.find? fun field => field.name == name

def collectMember (form : RecordForm σ α) (collected : σ) (name : String) (value : Draft) :
    Except Error σ :=
  match form.field? name with
  | none => (Fault.check value.skipFault?).map fun _ => collected
  | some field =>
      if field.isSet collected then .error (.mismatch (.repeatedField name))
      else field.read collected value

def collectMembers (form : RecordForm σ α) (ending : ObjectEnd) (collected : σ) :
    List (StringLiteral × Draft) → Except Error σ
  | [] => (Fault.check ending.reading?).map fun _ => collected
  | (key, value) :: rest => do
      let name ← Fault.raise key.text
      let collected ← form.collectMember collected name value
      form.collectMembers ending collected rest

-- The fields from `position` on, for a list that has no more items.
def endItems (form : RecordForm σ α) (ending : ListEnd) (position : Nat) (collected : σ) :
    List (Field σ) → Except Error σ
  | [] => (Fault.check ending.finishing?).map fun _ => collected
  | field :: rest => do
      Fault.check ending.reading?
      if field.required then
        .error (.mismatch (.wrongLength position form.name form.fields.length))
      else form.endItems ending (position + 1) collected rest

def collectItems (form : RecordForm σ α) (ending : ListEnd) (position : Nat) (collected : σ) :
    List (Field σ) → List Draft → Except Error σ
  | fields, [] => form.endItems ending position collected fields
  | [], _ :: _ => .error (.fault .trailingCharacters)
  | field :: fields, item :: items => do
      let collected ← field.read collected item
      form.collectItems ending (position + 1) collected fields items

def collect (form : RecordForm σ α) : Reader σ
  | .object members ending => form.collectMembers ending form.start members
  | .list items ending => form.collectItems ending 0 form.start form.fields items
  | draft => .error (draft.reject ("struct " ++ form.name))

def read (form : RecordForm σ α) : Reader α := fun draft => do
  form.finish (← form.collect draft)

end RecordForm

end Finder.Json
