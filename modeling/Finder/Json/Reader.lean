import Finder.Json.Draft

namespace Finder.Json

abbrev Reader (α : Type) : Type :=
  Draft → Except Error α

-- Goes on only where no fault was found.
def Fault.check : Option Fault → Except Error Unit
  | none => .ok ()
  | some fault => .error (.fault fault)

def Fault.raise {α : Type} : Except Fault α → Except Error α
  | .ok value => .ok value
  | .error fault => .error (.fault fault)

-- What is wrong with a draft that stands where something else was expected. Scalars are still read to
-- their end, since the message shows them.
def Draft.reject (expected : String) : Draft → Error
  | .null => .mismatch (.wrongType .null expected)
  | .bool value => .mismatch (.wrongType (.bool value) expected)
  | .number literal =>
      match literal.value with
      | .error fault => .fault fault
      | .ok value => .mismatch (.wrongType value.found expected)
  | .string literal =>
      match literal.text with
      | .error fault => .fault fault
      | .ok text => .mismatch (.wrongType (.text text) expected)
  | .list _ _ => .mismatch (.wrongType .sequence expected)
  | .object _ _ => .mismatch (.wrongType .map expected)
  | .broken cause => .fault cause.reading

def readText : Reader String
  | .string literal => Fault.raise literal.text
  | draft => .error (draft.reject "a string")

-- A null stands for no value.
def readOptional {α : Type} (read : Reader α) : Reader (Option α)
  | .null => .ok none
  | draft => (read draft).map some

def readItems {α : Type} (read : Reader α) (ending : ListEnd) : List Draft → Except Error (List α)
  | [] => (Fault.check ending.reading?).map fun _ => []
  | item :: rest => do
      let value ← read item
      let values ← readItems read ending rest
      return value :: values

def readList {α : Type} (read : Reader α) : Reader (List α)
  | .list items ending => readItems read ending items
  | draft => .error (draft.reject "a sequence")

-- Nothing may follow the value of a document.
def Document.read {α : Type} (read : Reader α) (document : Document) : Except Error α := do
  let value ← read document.root
  if document.trailing then .error (.fault .trailingCharacters) else return value

def readDocument {α : Type} (read : Reader α) (text : String) : Except Error α :=
  (Document.parse text).read read

end Finder.Json
