import Finder.Text.Printable

namespace Finder.Json

inductive Fault where
  | cutInList
  | cutInObject
  | cutInString
  | cutInValue
  | expectedColon
  | expectedListEnd
  | expectedObjectEnd
  | expectedWord
  | expectedValue
  | invalidEscape
  | invalidNumber
  | numberOutOfRange
  | loneSurrogate
  | unpairedSurrogate
  | controlCharacter
  | keyNotString
  | trailingComma
  | trailingCharacters
  | tooDeep
  deriving DecidableEq, Repr

-- Whether the text only lacks an end.
def Fault.isCut : Fault → Bool
  | .cutInList | .cutInObject | .cutInString | .cutInValue => true
  | _ => false

def Fault.message : Fault → String
  | .cutInList => "EOF while parsing a list"
  | .cutInObject => "EOF while parsing an object"
  | .cutInString => "EOF while parsing a string"
  | .cutInValue => "EOF while parsing a value"
  | .expectedColon => "expected `:`"
  | .expectedListEnd => "expected `,` or `]`"
  | .expectedObjectEnd => "expected `,` or `\x7d`"
  | .expectedWord => "expected ident"
  | .expectedValue => "expected value"
  | .invalidEscape => "invalid escape"
  | .invalidNumber => "invalid number"
  | .numberOutOfRange => "number out of range"
  | .loneSurrogate => "lone leading surrogate in hex escape"
  | .unpairedSurrogate => "unexpected end of hex escape"
  | .controlCharacter => "control character (\\u0000-\\u001F) found while parsing a string"
  | .keyNotString => "key must be a string"
  | .trailingComma => "trailing comma"
  | .trailingCharacters => "trailing characters"
  | .tooDeep => "recursion limit exceeded"

-- What a value is, as far as a message shows it.
inductive Found where
  | null
  | bool (value : Bool)
  | integer (value : Int)
  | real (written : String)
  | text (value : String)
  | sequence
  | map
  deriving DecidableEq, Repr

def Found.message : Found → String
  | .null => "null"
  | .bool value => "boolean `" ++ toString value ++ "`"
  | .integer value => "integer `" ++ toString value ++ "`"
  | .real written => "floating point `" ++ written ++ "`"
  | .text value => "string " ++ Text.quote value
  | .sequence => "sequence"
  | .map => "map"

inductive Mismatch where
  | wrongType (found : Found) (expected : String)
  | unknownChoice (found : String) (choices : List String)
  | noChoice (type : String)
  | missingField (name : String)
  | repeatedField (name : String)
  | wrongLength (length : Nat) (record : String) (fields : Nat)
  deriving DecidableEq, Repr

def Mismatch.message : Mismatch → String
  | .wrongType found expected => "invalid type: " ++ found.message ++ ", expected " ++ expected
  | .unknownChoice found choices =>
      "unknown variant `" ++ found ++ "`, expected "
        ++ " or ".intercalate (choices.map fun choice => "`" ++ choice ++ "`")
  | .noChoice type => "data did not match any variant of untagged enum " ++ type
  | .missingField name => "missing field `" ++ name ++ "`"
  | .repeatedField name => "duplicate field `" ++ name ++ "`"
  | .wrongLength length record fields =>
      "invalid length " ++ toString length ++ ", expected struct " ++ record ++ " with "
        ++ toString fields ++ if fields = 1 then " element" else " elements"

-- A fault is a break of the grammar; a mismatch is a well-formed value where another one was expected.
inductive Error where
  | fault (cause : Fault)
  | mismatch (cause : Mismatch)
  deriving DecidableEq, Repr

def Error.message : Error → String
  | .fault cause => cause.message
  | .mismatch cause => cause.message

end Finder.Json
