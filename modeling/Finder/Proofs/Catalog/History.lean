import Finder.Proofs.Catalog.Entries

namespace Finder

-- What a program asks of a catalog: to store the query of one declaration, or those of several.
inductive Registration where
  | one (declaration : Declaration)
  | several (declarations : List Declaration)
  deriving DecidableEq, Repr

namespace Registration

def declarations : Registration → List Declaration
  | .one declaration => [declaration]
  | .several declarations => declarations

def attempts (catalog : Catalog) : Registration → List Attempt
  | .one declaration => [catalog.register declaration]
  | .several declarations => catalog.attempts declarations

end Registration

-- An attempt without its reports.
def Attempt.effect (attempt : Attempt) : Catalog × Except CatalogError CatalogEntry :=
  (attempt.catalog, attempt.result)

namespace Catalog

-- All attempts that a sequence of calls makes, each call on the catalog that the ones before left.
def history (catalog : Catalog) : List Registration → List Attempt
  | [] => []
  | call :: rest =>
      let attempts := call.attempts catalog
      attempts ++ (catalog.afterAttempts attempts).history rest

-- Declarations tried in their order, each on the catalog that the attempt before left.
inductive TriesAll : Catalog → List Declaration → List Attempt → Prop
  | nil (catalog : Catalog) : TriesAll catalog [] []
  | cons {catalog : Catalog} {declaration : Declaration} {attempt : Attempt}
      {declarations : List Declaration} {attempts : List Attempt}
      (first : Tries catalog declaration attempt)
      (rest : TriesAll attempt.catalog declarations attempts) :
      TriesAll catalog (declaration :: declarations) (attempt :: attempts)

theorem TriesAll.append {catalog : Catalog} {before after : List Declaration}
    {earlier later : List Attempt} (hbefore : TriesAll catalog before earlier)
    (hafter : TriesAll (catalog.afterAttempts earlier) after later) :
    TriesAll catalog (before ++ after) (earlier ++ later) := by
  induction hbefore with
  | nil catalog => exact hafter
  | cons first _ ih => exact .cons first (ih hafter)

theorem afterAttempts_append (catalog : Catalog) (earlier later : List Attempt) :
    catalog.afterAttempts (earlier ++ later) =
      (catalog.afterAttempts earlier).afterAttempts later := by
  induction earlier generalizing catalog with
  | nil => rfl
  | cons first rest ih => exact ih first.catalog

theorem triesAll_attempts (catalog : Catalog) (declarations : List Declaration) :
    TriesAll catalog declarations (catalog.attempts declarations) := by
  induction declarations generalizing catalog with
  | nil => exact .nil catalog
  | cons declaration rest ih => exact .cons (tries_registerNext catalog declaration) (ih _)

theorem triesAll_call (catalog : Catalog) (call : Registration) :
    TriesAll catalog call.declarations (call.attempts catalog) := by
  cases call with
  | one declaration => exact .cons (tries_register catalog declaration) (.nil _)
  | several declarations => exact triesAll_attempts catalog declarations

theorem triesAll_history (catalog : Catalog) (calls : List Registration) :
    TriesAll catalog (calls.flatMap Registration.declarations) (catalog.history calls) := by
  induction calls generalizing catalog with
  | nil => exact .nil catalog
  | cons call rest ih => exact (triesAll_call catalog call).append (ih _)

namespace TriesAll

variable {catalog : Catalog} {declarations : List Declaration} {attempts : List Attempt}

theorem length_eq (h : TriesAll catalog declarations attempts) :
    attempts.length = declarations.length := by
  induction h with
  | nil catalog => rfl
  | cons _ _ ih => rw [List.length_cons, List.length_cons, ih]

theorem schema_eq (h : TriesAll catalog declarations attempts) :
    (catalog.afterAttempts attempts).schema = catalog.schema := by
  induction h with
  | nil catalog => rfl
  | cons first _ ih => exact ih.trans first.schema_eq

-- Under a name stands what was there, or else the first that was offered for it.
theorem get?_eq (h : TriesAll catalog declarations attempts) (name : String) :
    (catalog.afterAttempts attempts).get? name =
      (catalog.get? name).or (declarations.findSome? (offer? catalog.schema name)) := by
  induction h with
  | nil catalog => exact Option.or_none.symm
  | @cons catalog declaration attempt declarations attempts first rest ih =>
      have hfirst := first.get?_eq name
      have hrest : (attempt.catalog.afterAttempts attempts).get? name =
          (attempt.catalog.get? name).or (declarations.findSome? (offer? catalog.schema name)) :=
        first.schema_eq ▸ ih
      have hoffers : (declaration :: declarations).findSome? (offer? catalog.schema name) =
          (offer? catalog.schema name declaration).or
            (declarations.findSome? (offer? catalog.schema name)) := by
        rw [List.findSome?_cons]
        cases offer? catalog.schema name declaration <;> rfl
      rw [afterAttempts, hrest, hfirst, hoffers, Option.or_assoc]

theorem size_eq (h : TriesAll catalog declarations attempts) :
    (catalog.afterAttempts attempts).size =
      catalog.size + attempts.countP fun attempt => attempt.result.isOk := by
  induction h with
  | nil catalog => rfl
  | @cons catalog declaration attempt declarations attempts first rest ih =>
      have hfirst := first.size_eq
      rw [afterAttempts, List.countP_cons]
      omega

-- The attempts for the first of the declarations do not depend on those that follow.
theorem split {before after : List Declaration}
    (h : TriesAll catalog (before ++ after) attempts) :
    ∃ earlier later, attempts = earlier ++ later ∧ TriesAll catalog before earlier ∧
      TriesAll (catalog.afterAttempts earlier) after later := by
  induction before generalizing catalog attempts with
  | nil => exact ⟨[], attempts, rfl, .nil catalog, h⟩
  | cons declaration before ih =>
      cases h with
      | @cons _ _ attempt _ attempts first rest =>
          obtain ⟨earlier, later, rfl, hearlier, hlater⟩ := ih rest
          exact ⟨attempt :: earlier, later, rfl, .cons first hearlier, hlater⟩

end TriesAll

theorem Tries.effect_unique {catalog : Catalog} {declaration : Declaration}
    {first second : Attempt} (hfirst : Tries catalog declaration first)
    (hsecond : Tries catalog declaration second) : first.effect = second.effect := by
  cases hfirst <;> cases hsecond <;> simp_all [Attempt.effect, contains]

theorem TriesAll.effects_unique {catalog : Catalog} {declarations : List Declaration}
    {firsts seconds : List Attempt} (hfirsts : TriesAll catalog declarations firsts)
    (hseconds : TriesAll catalog declarations seconds) :
    firsts.map Attempt.effect = seconds.map Attempt.effect := by
  induction hfirsts generalizing seconds with
  | nil catalog =>
      cases hseconds
      rfl
  | @cons _ _ first _ _ hfirst _ ih =>
      cases hseconds with
      | @cons _ _ second _ _ hsecond hrest =>
          have heffect := hfirst.effect_unique hsecond
          have hcatalog : first.catalog = second.catalog := congrArg Prod.fst heffect
          rw [List.map_cons, List.map_cons, heffect, ih (hcatalog ▸ hrest)]

theorem afterAttempts_eq_of_effects (catalog : Catalog) (firsts seconds : List Attempt)
    (h : firsts.map Attempt.effect = seconds.map Attempt.effect) :
    catalog.afterAttempts firsts = catalog.afterAttempts seconds := by
  induction firsts generalizing catalog seconds with
  | nil => rw [List.map_eq_nil_iff.mp h.symm]
  | cons first firsts ih =>
      cases seconds with
      | nil => cases h
      | cons second seconds =>
          rw [List.map_cons, List.map_cons, List.cons.injEq] at h
          have hcatalog : first.catalog = second.catalog := congrArg Prod.fst h.1
          rw [afterAttempts, afterAttempts, hcatalog]
          exact ih second.catalog seconds h.2

-- A declaration that stores its query if nothing stands under its name.
def Offers (schema : Schema) (name : String) (declaration : Declaration) : Prop :=
  declaration.method = name ∧ ∃ query, Query.compile schema declaration.root name = .ok query

-- What the declarations presented so far leave under a name: what the first of them that has the
-- name and compiles was compiled to, with its shape.
def Stored (schema : Schema) (presented : List Declaration) (name : String) (entry : CatalogEntry) :
    Prop :=
  ∃ declaration query, IsFirst (Offers schema name) presented declaration ∧
    Query.compile schema declaration.root name = .ok query ∧
    entry = ⟨name, query, declaration.shape⟩

theorem offer?_eq_none_iff (schema : Schema) (name : String) (declaration : Declaration) :
    offer? schema name declaration = none ↔ ¬Offers schema name declaration := by
  rw [Option.eq_none_iff_forall_ne_some]
  constructor
  · rintro hnone ⟨hname, query, hquery⟩
    exact hnone _ ((offer?_eq_some_iff schema name declaration _).mpr ⟨hname, query, hquery, rfl⟩)
  · intro hnot entry hentry
    obtain ⟨hname, query, hquery, _⟩ := (offer?_eq_some_iff schema name declaration entry).mp hentry
    exact hnot ⟨hname, query, hquery⟩

theorem findSome?_offer?_eq_some_iff (schema : Schema) (presented : List Declaration)
    (name : String) (entry : CatalogEntry) :
    presented.findSome? (offer? schema name) = some entry ↔ Stored schema presented name entry := by
  simp only [List.findSome?_eq_some_iff, offer?_eq_some_iff, offer?_eq_none_iff]
  constructor
  · rintro ⟨before, declaration, after, rfl, ⟨hname, query, hquery, rfl⟩, hbefore⟩
    have hoffers : Offers schema name declaration := ⟨hname, query, hquery⟩
    exact ⟨declaration, query, ⟨before, after, rfl, hoffers, hbefore⟩, hquery, rfl⟩
  · rintro ⟨declaration, query, ⟨before, after, rfl, hoffers, hbefore⟩, hquery, rfl⟩
    exact ⟨before, declaration, after, rfl, ⟨hoffers.1, query, hquery, rfl⟩, hbefore⟩

theorem Stored.unique {schema : Schema} {presented : List Declaration} {name : String}
    {entry other : CatalogEntry} (h : Stored schema presented name entry)
    (h' : Stored schema presented name other) : entry = other := by
  rw [← findSome?_offer?_eq_some_iff] at h h'
  exact Option.some.inj (h.symm.trans h')

theorem exists_stored_iff (schema : Schema) (presented : List Declaration) (name : String) :
    (∃ entry, Stored schema presented name entry) ↔
      ∃ declaration ∈ presented, Offers schema name declaration := by
  constructor
  · rintro ⟨_, declaration, _, hfirst, _, _⟩
    exact ⟨declaration, hfirst.mem⟩
  · rintro ⟨declaration, hmem, hoffers⟩
    obtain ⟨first, hfirst⟩ := exists_isFirst declaration hmem hoffers
    obtain ⟨_, query, hquery⟩ := hfirst.mem.2
    exact ⟨_, first, query, hfirst, hquery, rfl⟩

-- The answer to a declaration after the ones before: a name that is stored is refused first,
-- whether the declaration would compile or not.
inductive Answered (schema : Schema) (before : List Declaration) (declaration : Declaration) :
    Except CatalogError CatalogEntry → Prop
  | duplicate (entry : CatalogEntry) (h : Stored schema before declaration.method entry) :
      Answered schema before declaration (.error (.alreadyStored declaration.method))
  | rejected (error : CompileError)
      (hnew : ∀ entry, ¬Stored schema before declaration.method entry)
      (h : Query.compile schema declaration.root declaration.method = .error error) :
      Answered schema before declaration (.error (.rejected error))
  | stored (query : Query)
      (hnew : ∀ entry, ¬Stored schema before declaration.method entry)
      (h : Query.compile schema declaration.root declaration.method = .ok query) :
      Answered schema before declaration
        (.ok ⟨declaration.method, query, declaration.shape⟩)

-- What calls on an empty catalog amount to: the declarations they presented, the attempts they made
-- and the catalog they left.
structure Told (schema : Schema) (presented : List Declaration) (attempts : List Attempt)
    (catalog : Catalog) : Prop where
  -- Each declaration has its attempt, with an answer that those before it decide, as they decide what
  -- is stored by then.
  length_eq : attempts.length = presented.length
  answered : ∀ before declaration after, presented = before ++ declaration :: after →
    ∃ earlier attempt later, attempts = earlier ++ attempt :: later ∧
      earlier.length = before.length ∧ Answered schema before declaration attempt.result ∧
      (∀ name entry, ((empty schema).afterAttempts earlier).get? name = some entry ↔
        Stored schema before name entry) ∧
      ∀ error, attempt.result = .error error →
        attempt.catalog = (empty schema).afterAttempts earlier
  get?_iff : ∀ name entry, catalog.get? name = some entry ↔ Stored schema presented name entry
  found_iff : ∀ name, (∃ entry, catalog.get? name = some entry) ↔
    ∃ declaration ∈ presented, Offers schema name declaration
  kept : ∀ later name entry, catalog.get? name = some entry →
    (catalog.afterAttempts (catalog.history later)).get? name = some entry
  -- However often a name has failed, a declaration that compiles still gets it.
  retried : ∀ declaration query, (∀ other ∈ presented, ¬Offers schema declaration.method other) →
    Query.compile schema declaration.root declaration.method = .ok query →
    (catalog.register declaration).result = .ok ⟨declaration.method, query, declaration.shape⟩
  -- Several declarations at once come to what they come to one by one.
  several_eq : ∀ declarations,
    (catalog.attempts declarations).map Attempt.effect =
        (catalog.history (declarations.map Registration.one)).map Attempt.effect ∧
      catalog.registerAll declarations =
        catalog.afterAttempts (catalog.history (declarations.map Registration.one))
  names_iff : ∀ name, name ∈ catalog.names ↔ ∃ entry, catalog.get? name = some entry
  names_ascending : catalog.names.Pairwise fun first second => first < second
  size_eq : catalog.size = attempts.countP fun attempt => attempt.result.isOk

section

variable {schema : Schema} {presented : List Declaration} {attempts : List Attempt}

theorem TriesAll.get?_iff (h : TriesAll (empty schema) presented attempts) (name : String)
    (entry : CatalogEntry) :
    ((empty schema).afterAttempts attempts).get? name = some entry ↔
      Stored schema presented name entry := by
  have hnone : (empty schema).get? name = none := rfl
  rw [h.get?_eq, hnone, Option.none_or]
  exact findSome?_offer?_eq_some_iff schema presented name entry

theorem TriesAll.get?_eq_none_iff (h : TriesAll (empty schema) presented attempts)
    (name : String) :
    ((empty schema).afterAttempts attempts).get? name = none ↔
      ∀ entry, ¬Stored schema presented name entry := by
  rw [Option.eq_none_iff_forall_ne_some]
  exact forall_congr' fun entry => not_congr (h.get?_iff name entry)

-- After attempts on an empty catalog, the answer to one more is told by what they presented.
theorem Tries.answered {declaration : Declaration} {attempt : Attempt}
    (hbefore : TriesAll (empty schema) presented attempts)
    (h : Tries ((empty schema).afterAttempts attempts) declaration attempt) :
    Answered schema presented declaration attempt.result := by
  have hschema : ((empty schema).afterAttempts attempts).schema = schema := hbefore.schema_eq
  cases h with
  | duplicate events h =>
      obtain ⟨entry, hentry⟩ := (contains_iff _ _).mp h
      exact .duplicate entry ((hbefore.get?_iff _ entry).mp hentry)
  | rejected events error hnew h =>
      rw [hschema] at h
      exact .rejected error ((hbefore.get?_eq_none_iff _).mp hnew) h
  | stored events query hnew h =>
      rw [hschema] at h
      exact .stored query ((hbefore.get?_eq_none_iff _).mp hnew) h

theorem TriesAll.answered (h : TriesAll (empty schema) presented attempts)
    (before : List Declaration) (declaration : Declaration) (after : List Declaration)
    (hpresented : presented = before ++ declaration :: after) :
    ∃ earlier attempt later, attempts = earlier ++ attempt :: later ∧
      earlier.length = before.length ∧ Answered schema before declaration attempt.result ∧
      (∀ name entry, ((empty schema).afterAttempts earlier).get? name = some entry ↔
        Stored schema before name entry) ∧
      ∀ error, attempt.result = .error error →
        attempt.catalog = (empty schema).afterAttempts earlier := by
  rw [hpresented] at h
  obtain ⟨earlier, _, rfl, hearlier, hlater⟩ := h.split
  cases hlater with
  | @cons _ _ attempt _ later first rest =>
      exact ⟨earlier, attempt, later, rfl, hearlier.length_eq, first.answered hearlier,
        hearlier.get?_iff, first.catalog_eq_of_error⟩

end

-- Attempts only add entries.
theorem TriesAll.get?_kept {catalog : Catalog} {declarations : List Declaration}
    {attempts : List Attempt} (h : TriesAll catalog declarations attempts) (name : String)
    (entry : CatalogEntry) (hentry : catalog.get? name = some entry) :
    (catalog.afterAttempts attempts).get? name = some entry := by
  rw [h.get?_eq, hentry, Option.some_or]

theorem register_result_of_new {catalog : Catalog} (declaration : Declaration) (query : Query)
    (hnew : catalog.get? declaration.method = none)
    (h : Query.compile catalog.schema declaration.root declaration.method = .ok query) :
    (catalog.register declaration).result =
      .ok ⟨declaration.method, query, declaration.shape⟩ := by
  have hc : catalog.contains declaration.method = false := by
    rw [contains, hnew, Option.isSome_none]
  simp [register, hc, h]

theorem several_effects (catalog : Catalog) (declarations : List Declaration) :
    (catalog.attempts declarations).map Attempt.effect =
      (catalog.history (declarations.map Registration.one)).map Attempt.effect := by
  have hone := triesAll_history catalog (declarations.map Registration.one)
  have hsame : (declarations.map Registration.one).flatMap Registration.declarations =
      declarations := by
    simp [List.flatMap_map, Registration.declarations]
  rw [hsame] at hone
  exact (triesAll_attempts catalog declarations).effects_unique hone

-- The history of a catalog, from the declarations that were presented alone or with others.
theorem told_by_presented (schema : Schema) (calls : List Registration) :
    Told schema (calls.flatMap Registration.declarations) ((empty schema).history calls)
      ((empty schema).afterAttempts ((empty schema).history calls)) := by
  have hall := triesAll_history (empty schema) calls
  have hfound : ∀ name,
      (∃ entry, ((empty schema).afterAttempts ((empty schema).history calls)).get? name =
        some entry) ↔
      ∃ declaration ∈ calls.flatMap Registration.declarations, Offers schema name declaration := by
    intro name
    simp only [hall.get?_iff]
    exact exists_stored_iff schema _ name
  constructor
  case length_eq => exact hall.length_eq
  case answered => exact hall.answered
  case get?_iff => exact hall.get?_iff
  case found_iff => exact hfound
  case kept =>
    intro later name entry hentry
    exact (triesAll_history _ later).get?_kept name entry hentry
  case retried =>
    intro declaration query hfailed hquery
    refine register_result_of_new declaration query ?_ (hall.schema_eq ▸ hquery)
    rw [Option.eq_none_iff_forall_ne_some]
    intro entry hentry
    obtain ⟨other, hmem, hoffers⟩ := (hfound _).mp ⟨entry, hentry⟩
    exact hfailed other hmem hoffers
  case several_eq =>
    intro declarations
    have heffects := several_effects ((empty schema).afterAttempts ((empty schema).history calls))
      declarations
    exact ⟨heffects, afterAttempts_eq_of_effects _ _ _ heffects⟩
  case names_iff =>
    intro name
    rw [mem_names_iff, contains_iff]
  case names_ascending => exact names_ascending _
  case size_eq =>
    have hsize := hall.size_eq
    have hempty : (empty schema).size = 0 := rfl
    rwa [hempty, Nat.zero_add] at hsize

end Catalog

end Finder
