import Finder.Call

namespace Finder

structure CatalogEntry where
  name : String
  query : Query
  shape : Shape
  deriving DecidableEq, Repr

inductive CatalogError where
  | alreadyStored (name : String)
  | rejected (cause : CompileError)
  deriving DecidableEq, Repr

def CatalogError.message : CatalogError → String
  | .alreadyStored name => "query method already registered: " ++ name
  | .rejected cause => cause.message

structure Catalog where
  schema : Schema
  entries : List CatalogEntry
  ascending : entries.Pairwise fun first second => first.name < second.name
  deriving DecidableEq

-- The catalog after an attempt to store a query, what became of it, and what was reported.
structure Attempt where
  catalog : Catalog
  result : Except CatalogError CatalogEntry
  events : List Event

namespace Catalog

def empty (schema : Schema) : Catalog :=
  ⟨schema, [], .nil⟩

def get? (catalog : Catalog) (name : String) : Option CatalogEntry :=
  catalog.entries.find? fun entry => entry.name == name

def contains (catalog : Catalog) (name : String) : Bool :=
  (catalog.get? name).isSome

def names (catalog : Catalog) : List String :=
  catalog.entries.map CatalogEntry.name

def size (catalog : Catalog) : Nat :=
  catalog.entries.length

-- Puts an entry before the first one with a greater name. An entry with its name stays.
def place (entry : CatalogEntry) : List CatalogEntry → List CatalogEntry
  | [] => [entry]
  | other :: rest =>
      if entry.name < other.name then entry :: other :: rest
      else if entry.name = other.name then other :: rest
      else other :: place entry rest

theorem mem_place (entry : CatalogEntry) (entries : List CatalogEntry) (other : CatalogEntry)
    (h : other ∈ place entry entries) : other = entry ∨ other ∈ entries := by
  induction entries with
  | nil => exact Or.inl (List.mem_singleton.mp h)
  | cons first rest ih =>
      simp only [place] at h
      split at h
      · exact List.mem_cons.mp h
      · split at h
        · exact Or.inr h
        · cases List.mem_cons.mp h with
          | inl hf => exact Or.inr (hf ▸ List.mem_cons_self)
          | inr hr =>
              cases ih hr with
              | inl he => exact Or.inl he
              | inr hm => exact Or.inr (List.mem_cons_of_mem _ hm)

theorem place_ascending (entry : CatalogEntry) (entries : List CatalogEntry)
    (h : entries.Pairwise fun first second => first.name < second.name) :
    (place entry entries).Pairwise fun first second => first.name < second.name := by
  induction entries with
  | nil => exact List.pairwise_singleton _ _
  | cons first rest ih =>
      obtain ⟨hf, hr⟩ := List.pairwise_cons.mp h
      simp only [place]
      split
      · next hlt =>
        refine List.pairwise_cons.mpr ⟨?_, h⟩
        intro other ho
        cases List.mem_cons.mp ho with
        | inl he => exact he ▸ hlt
        | inr hm => exact String.lt_trans hlt (hf other hm)
      · next hge =>
        split
        · exact h
        · next hne =>
          refine List.pairwise_cons.mpr ⟨?_, ih hr⟩
          intro other ho
          cases mem_place entry rest other ho with
          | inl he =>
              subst he
              exact Std.lt_of_le_of_ne (String.not_lt.mp hge) (Ne.symm hne)
          | inr hm => exact hf other hm

def insert (catalog : Catalog) (entry : CatalogEntry) : Catalog :=
  ⟨catalog.schema, place entry catalog.entries, place_ascending entry _ catalog.ascending⟩

def register (catalog : Catalog) (declaration : Declaration) : Attempt :=
  if catalog.contains declaration.method then
    ⟨catalog, .error (.alreadyStored declaration.method), []⟩
  else
    let compiled := Query.compile catalog.schema declaration.root declaration.method
    let event := Event.ofCompilation declaration.root declaration.method compiled
    match compiled with
    | .error error => ⟨catalog, .error (.rejected error), [event]⟩
    | .ok query =>
        let entry := ⟨declaration.method, query, declaration.shape⟩
        ⟨catalog.insert entry, .ok entry, [event]⟩

-- One attempt out of several also reports that it failed.
def registerNext (catalog : Catalog) (declaration : Declaration) : Attempt :=
  let attempt := catalog.register declaration
  match attempt.result with
  | .ok _ => attempt
  | .error error =>
      { attempt with
        events := attempt.events ++ [.notRegistered declaration.method error.message] }

-- The attempts for all declarations, each on the catalog that the one before left.
def attempts (catalog : Catalog) : List Declaration → List Attempt
  | [] => []
  | declaration :: rest =>
      let attempt := catalog.registerNext declaration
      attempt :: attempt.catalog.attempts rest

-- The catalog that the last attempt left.
def afterAttempts (catalog : Catalog) : List Attempt → Catalog
  | [] => catalog
  | attempt :: rest => attempt.catalog.afterAttempts rest

def registerAll (catalog : Catalog) (declarations : List Declaration) : Catalog :=
  catalog.afterAttempts (catalog.attempts declarations)

end Catalog

end Finder
