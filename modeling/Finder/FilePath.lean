namespace Finder

structure FilePath where
  text : String
  deriving DecidableEq, Repr

namespace FilePath

-- The pieces between slashes. `piece` holds the characters of the current one, last first.
def splitSlashes (piece : List Char) : List Char → List String
  | [] => [String.ofList piece.reverse]
  | '/' :: rest => String.ofList piece.reverse :: splitSlashes [] rest
  | c :: rest => splitSlashes (c :: piece) rest

-- The names that the path leads through. Repeated slashes count once.
def steps (path : FilePath) : List String :=
  (splitSlashes [] path.text.toList).filter fun step => step ≠ ""

-- The numbers of bytes that a path and each name in it may have.
def longest : Nat := 4095

def longestName : Nat := 255

def isTooLong (path : FilePath) : Bool :=
  longest < path.text.utf8ByteSize

def isAbsolute (path : FilePath) : Bool :=
  path.text.toList.head? == some '/'

def endsWithSlash (path : FilePath) : Bool :=
  path.text.toList.getLast? == some '/'

-- The path of an entry of a directory.
def child (directory : FilePath) (name : String) : FilePath :=
  if directory.endsWithSlash then ⟨directory.text ++ name⟩ else ⟨directory.text ++ "/" ++ name⟩

-- A step to the place itself changes nothing. A step up does, since it may follow a link.
def components (path : FilePath) : List String :=
  path.steps.filter fun step => step ≠ "."

-- Whether two absolute paths are written alike.
def same (first second : FilePath) : Bool :=
  first.components == second.components

end FilePath

end Finder
