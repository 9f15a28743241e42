import Finder.Text.Alphanumeric
import Finder.Text.LetterCase
import Finder.Violation

namespace Finder

-- A method name such as `findPeopleByLastNameAndCity`, cut by its letters alone: no schema is known
-- here.
structure MethodName where
  verb : String
  subject : Option String
  parts : List String
  -- The connectors stand between the parts.
  connectors : List Connector
  deriving DecidableEq, Repr

namespace MethodName

open Text

def isNameChar (c : Char) : Bool :=
  isAlphanumeric c || c == '_'

-- Whether a keyword before this text ends there, so that a new part can begin.
def opensPart : List Char → Bool
  | c :: _ => isUpper c || 128 ≤ c.toNat
  | [] => false

-- `part` is the open part, its last letter first. A keyword that opens a part is no connector, nor
-- is one that runs on in small letters: `Orchestra` and `Brandy` are single parts.
def splitParts (part : List Char) : List Char → List (List Char) × List Connector
  | 'A' :: 'n' :: 'd' :: rest =>
      if part ≠ [] ∧ opensPart rest then
        let (parts, connectors) := splitParts [] rest
        (part.reverse :: parts, .and :: connectors)
      else splitParts ('d' :: 'n' :: 'A' :: part) rest
  | 'O' :: 'r' :: rest =>
      if part ≠ [] ∧ opensPart rest then
        let (parts, connectors) := splitParts [] rest
        (part.reverse :: parts, .or :: connectors)
      else splitParts ('r' :: 'O' :: part) rest
  | c :: rest => splitParts (c :: part) rest
  | [] => ([part.reverse], [])

-- What stands before the first `By`, and what stands after it.
def cutAtBy : List Char → Option (List Char × List Char)
  | 'B' :: 'y' :: rest => some ([], rest)
  | c :: rest => (cutAtBy rest).map fun (subject, parts) => (c :: subject, parts)
  | [] => none

def ofNonempty (text : List Char) : Option String :=
  if text = [] then none else some (String.ofList text)

-- A subject begins with a capital letter. Without one, a `By` further on is part of a plain name.
def cutSubject (text : List Char) : Option (Option String × List Char) :=
  match cutAtBy text with
  | some (subject, parts) =>
      if subject = [] ∨ subject.head?.any isUpperLetter then some (ofNonempty subject, parts)
      else none
  | none => none

def parse (name : String) : Except Violation MethodName :=
  let text := name.toList
  match text.find? fun c => !isNameChar c with
  | some found => .error (.unexpectedCharacter found)
  | none =>
      match text.takeWhile isLowerLetter, text.dropWhile isLowerLetter with
      | [], _ => .error .missingVerb
      | verb, rest =>
          match cutSubject rest with
          | none => .ok ⟨String.ofList verb, ofNonempty rest, [], []⟩
          | some (subject, []) => .ok ⟨String.ofList verb, subject, [], []⟩
          | some (subject, text) =>
              let (parts, connectors) := splitParts [] text
              .ok ⟨String.ofList verb, subject, parts.map String.ofList, connectors⟩

end MethodName

end Finder
