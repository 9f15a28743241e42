import Finder.MethodName
import Finder.Schema

namespace Finder

open Text

structure Predicate where
  -- The properties on the way, the compared one last.
  path : List String
  type : PropertyType
  owner : String
  deriving DecidableEq, Repr

namespace Predicate

-- A path has at least one step.
def ofPath? (path : List String) (type : PropertyType) (owner : String) : Option Predicate :=
  if path = [] then none else some ⟨path, type, owner⟩

def first (predicate : Predicate) : String :=
  predicate.path.headD ""

def leaf (predicate : Predicate) : String :=
  predicate.path.getLastD ""

def dotted (predicate : Predicate) : String :=
  ".".intercalate predicate.path

def ofProperty (found : OwnedProperty) : Predicate :=
  ⟨[found.property.name], found.property.type, found.owner⟩

def under (reference : OwnedProperty) (predicate : Predicate) : Predicate :=
  { predicate with path := reference.property.name :: predicate.path }

end Predicate

def smallFirst : List Char → List Char
  | [] => []
  | first :: rest => lowerChar first ++ rest

-- Words that begin with two capitals are abbreviations and keep them.
def decapitalize : List Char → List Char
  | first :: second :: rest =>
      if isUpper first && isUpper second then first :: second :: rest
      else smallFirst (first :: second :: rest)
  | word => smallFirst word

namespace Declarations

-- The property that a word names. A word in capitals may name one with a small first letter, if
-- there is none that is spelt like the word.
def named? (declared : Declarations) (entity : String) (word : List Char) : Option OwnedProperty :=
  (declared.property? entity (String.ofList (decapitalize word))).or
    (declared.property? entity (String.ofList (smallFirst word)))

-- A reference that a word names, and the entity it leads to.
def reference? (declared : Declarations) (entity : String) (word : List Char) :
    Option (OwnedProperty × String) :=
  (declared.named? entity word).bind fun found =>
    found.property.type.target?.map fun target => (found, target)

end Declarations

-- What stands before the first underscore and what stands after it.
def cutAtUnderscore : List Char → Option (List Char × List Char)
  | [] => none
  | c :: rest =>
      if c = '_' then some ([], rest)
      else (cutAtUnderscore rest).map fun (head, tail) => (c :: head, tail)

-- The cuts before a capital, the shortest head first. Heads are held last letter first, and none is
-- empty.
def capitalCuts (before : List Char) : List Char → List (List Char × List Char)
  | [] => []
  | c :: rest =>
      if before ≠ [] ∧ isUpper c then (before, c :: rest) :: capitalCuts (c :: before) rest
      else capitalCuts (c :: before) rest

theorem cutAtUnderscore_length {part head tail : List Char}
    (h : cutAtUnderscore part = some (head, tail)) : tail.length < part.length := by
  induction part generalizing head with
  | nil => simp [cutAtUnderscore] at h
  | cons c rest ih =>
      simp only [cutAtUnderscore] at h
      split at h
      · simp_all
      · simp only [Option.map_eq_some_iff, Prod.mk.injEq, Prod.exists] at h
        obtain ⟨inner, after, hr, _, rfl⟩ := h
        have := ih hr
        simp only [List.length_cons]
        omega

theorem capitalCuts_length {before part : List Char} {cut : List Char × List Char}
    (h : cut ∈ capitalCuts before part) : cut.2.length + cut.1.length = before.length + part.length
      ∧ cut.1 ≠ [] := by
  induction part generalizing before with
  | nil => simp [capitalCuts] at h
  | cons c rest ih =>
      have later (h : cut ∈ capitalCuts (c :: before) rest) :
          cut.2.length + cut.1.length = before.length + (c :: rest).length ∧ cut.1 ≠ [] := by
        have hh := ih h
        simp only [List.length_cons] at hh ⊢
        exact ⟨by omega, hh.2⟩
      simp only [capitalCuts] at h
      split at h
      · next hc =>
        cases List.mem_cons.mp h with
        | inl h => exact ⟨by rw [h]; exact Nat.add_comm _ _, by rw [h]; exact hc.1⟩
        | inr h => exact later h
      · exact later h

theorem capitalCuts_shorter {part : List Char} {cut : List Char × List Char}
    (h : cut ∈ (capitalCuts [] part).reverse) : cut.2.length < part.length := by
  have hh := capitalCuts_length (List.mem_reverse.mp h)
  have hp := List.length_pos_iff.mpr hh.2
  simp only [List.length_nil] at hh
  omega

-- Resolves a part of a method name. An underscore is always a step; otherwise the whole part is
-- tried first, and then the cuts before a capital, the longest head first.
def resolvePart (declared : Declarations) (entity : String) (part : List Char) :
    Option Predicate :=
  match part with
  | [] => none
  | c :: rest =>
      match _cut : cutAtUnderscore (c :: rest) with
      | some (head, tail) =>
          match declared.reference? entity head with
          | none => none
          | some (found, target) => (resolvePart declared target tail).map (.under found)
      | none =>
          match declared.named? entity (c :: rest) with
          | some found => some (.ofProperty found)
          | none =>
              (capitalCuts [] (c :: rest)).reverse.attach.findSome? fun cut =>
                match declared.reference? entity cut.1.1.reverse with
                | none => none
                | some (found, target) => (resolvePart declared target cut.1.2).map (.under found)
termination_by part.length
decreasing_by
  · exact cutAtUnderscore_length (by assumption)
  · exact capitalCuts_shorter cut.2

end Finder
