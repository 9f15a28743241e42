import Finder.FilePath

namespace Finder

inductive FileError where
  | missing
  | alreadyThere
  | notDirectory
  | isDirectory
  | nameTooLong
  | zeroInName
  deriving DecidableEq, Repr

def FileError.message : FileError → String
  | .missing => "No such file or directory (os error 2)"
  | .alreadyThere => "File exists (os error 17)"
  | .notDirectory => "Not a directory (os error 20)"
  | .isDirectory => "Is a directory (os error 21)"
  | .nameTooLong => "File name too long (os error 36)"
  | .zeroInName => "file name contained an unexpected NUL byte"

-- What is wrong with a name under which nothing is found.
def FileError.absence (name : String) : FileError :=
  if FilePath.longestName < name.utf8ByteSize then .nameTooLong else .missing

inductive FileNode where
  | file (content : ByteArray)
  | directory (entries : List (String × FileNode))

-- What is in a directory.
abbrev FileEntries : Type :=
  List (String × FileNode)

structure FileTree where
  -- The entries of the root.
  entries : FileEntries

-- A directory that a walk has come to. The trail holds the names that lead to it from the root, last
-- first, each with the entries of the directory that it was found in.
structure FileSpot where
  entries : FileEntries
  trail : List (String × FileEntries)

namespace FileEntries

-- Puts a node under a name, where it replaces an older one.
def put (name : String) (node : FileNode) : FileEntries → FileEntries
  | [] => [(name, node)]
  | (other, old) :: rest =>
      if other = name then (name, node) :: rest else (other, old) :: put name node rest

end FileEntries

namespace FileSpot

-- Two spots are one directory if the same names lead to them.
def names (spot : FileSpot) : List String :=
  spot.trail.map Prod.fst

def up (spot : FileSpot) : FileSpot :=
  match spot.trail with
  | [] => spot
  | (_, above) :: trail => ⟨above, trail⟩

def enter (spot : FileSpot) (step : String) : Except FileError FileSpot :=
  if step = "." then .ok spot
  else if step = ".." then .ok spot.up
  else
    match spot.entries.lookup step with
    | some (.directory entries) => .ok ⟨entries, (step, spot.entries) :: spot.trail⟩
    | some (.file _) => .error .notDirectory
    | none => .error (.absence step)

-- The directory that steps lead to.
def follow (spot : FileSpot) : List String → Except FileError FileSpot
  | [] => .ok spot
  | step :: rest => do follow (← spot.enter step) rest

-- The whole tree, when these are the entries of the directory at the end of a trail.
def treeWith (entries : FileEntries) : List (String × FileEntries) → FileTree
  | [] => ⟨entries⟩
  | (name, above) :: trail => treeWith (FileEntries.put name (.directory entries) above) trail

def put (spot : FileSpot) (name : String) (node : FileNode) : FileTree :=
  treeWith (FileEntries.put name node spot.entries) spot.trail

end FileSpot

namespace FileTree

-- What is wrong with a path before anything is looked up.
def checkPath (path : FilePath) : Except FileError Unit :=
  if path.text.toList.any fun c => c.toNat = 0 then .error .zeroInName
  else if path.isTooLong then .error .nameTooLong
  else .ok ()

def root (tree : FileTree) : FileSpot :=
  ⟨tree.entries, []⟩

def isDirectory (tree : FileTree) (steps : List String) : Bool :=
  (tree.root.follow steps.reverse).toBool

-- Makes one directory. From here on steps are held last first, and start at the root.
def createDirectory (tree : FileTree) : List String → Except FileError FileTree
  | [] => .error .alreadyThere
  | last :: before => do
      let spot ← tree.root.follow before.reverse
      if last = "." ∨ last = ".." then .error .alreadyThere
      else
        match spot.entries.lookup last with
        | some _ => .error .alreadyThere
        | none =>
            if FilePath.longestName < last.utf8ByteSize then .error .nameTooLong
            else .ok (spot.put last (.directory []))

def trimDots : List String → List String
  | [] => []
  | step :: rest => if step = "." then trimDots rest else step :: rest

def parent (steps : List String) : List String :=
  trimDots (trimDots steps).tail

theorem length_trimDots_le (steps : List String) : (trimDots steps).length ≤ steps.length := by
  induction steps with
  | nil => exact Nat.le_refl _
  | cons step rest ih =>
      simp only [trimDots]
      split
      · exact Nat.le_succ_of_le ih
      · exact Nat.le_refl _

theorem length_parent_lt (steps : List String) (h : steps ≠ []) :
    (parent steps).length < steps.length := by
  have ht := length_trimDots_le (trimDots steps).tail
  have hs := length_trimDots_le steps
  have hl : (trimDots steps).tail.length ≤ steps.length - 1 := by
    rw [List.length_tail]
    omega
  have hp : 0 < steps.length := List.length_pos_iff.mpr h
  simp only [parent]
  omega

-- Makes a directory and those above it that are missing. What was made stays, also when a later one
-- cannot be made.
def createSteps (tree : FileTree) (steps : List String) : FileTree × Option FileError :=
  match tree.createDirectory steps with
  | .ok created => (created, none)
  | .error error =>
      if h : error = .missing ∧ steps ≠ [] then
        have := length_parent_lt steps h.2
        match createSteps tree (parent steps) with
        | (filled, some error) => (filled, some error)
        | (filled, none) =>
            match filled.createDirectory steps with
            | .ok created => (created, none)
            | .error error => (filled, if filled.isDirectory steps then none else some error)
      else (tree, if tree.isDirectory steps then none else some error)
termination_by steps.length

def createAll (tree : FileTree) (path : FilePath) : FileTree × Option FileError :=
  match checkPath path with
  | .error error => (tree, some error)
  | .ok () => tree.createSteps path.steps.reverse

-- The bytes of a file. A path that is not absolute starts where the steps of `home` lead.
def read (tree : FileTree) (home : List String) (path : FilePath) : Except FileError ByteArray := do
  checkPath path
  let before := if path.isAbsolute then [] else home
  let steps := if path.endsWithSlash then path.steps ++ ["."] else path.steps
  match steps.reverse with
  | [] => .error .missing
  | last :: middle =>
      let spot ← tree.root.follow (before ++ middle.reverse)
      if last = "." ∨ last = ".." then .error .isDirectory
      else
        match spot.entries.lookup last with
        | some (.file content) => .ok content
        | some (.directory _) => .error .isDirectory
        | none => .error (.absence last)

end FileTree

end Finder
