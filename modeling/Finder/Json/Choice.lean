import Finder.Json.Reader

namespace Finder.Json

-- One of several words. It is written as a string, or as the only key of an object whose value is
-- null.
structure ChoiceForm (α : Type) where
  choices : List (String × α)

def readUnit : Reader Unit
  | .null => .ok ()
  | draft => .error (draft.reject "unit")

namespace ChoiceForm

variable {α : Type}

def choose (form : ChoiceForm α) (word : String) : Except Error α :=
  match form.choices.lookup word with
  | some value => .ok value
  | none => .error (.mismatch (.unknownChoice word (form.choices.map Prod.fst)))

-- What is wrong with an object that has no key.
def missingKey : ObjectEnd → Error
  | .cut => .fault .cutInObject
  | .noKey _ => .fault .keyNotString
  | _ => .fault .expectedValue

-- The object has to end after its only member.
def checkEnd (rest : List (StringLiteral × Draft)) (ending : ObjectEnd) : Except Error Unit :=
  match rest, ending with
  | [], .closed => .ok ()
  | [], .cut => .error (.fault .cutInObject)
  | _, _ => .error (.fault .expectedValue)

def readMember (form : ChoiceForm α) (ending : ObjectEnd) :
    List (StringLiteral × Draft) → Except Error α
  | [] => .error (missingKey ending)
  | (key, value) :: rest => do
      let word ← Fault.raise key.text
      let choice ← form.choose word
      readUnit value
      checkEnd rest ending
      return choice

def read (form : ChoiceForm α) : Reader α
  | .string literal => do form.choose (← Fault.raise literal.text)
  | .object members ending => form.readMember ending members
  | .broken .cut => .error (.fault .cutInValue)
  | .broken .noColon => .error (.fault .expectedColon)
  | .broken .cutBeforeColon => .error (.fault .cutInObject)
  | _ => .error (.fault .expectedValue)

end ChoiceForm

end Finder.Json
