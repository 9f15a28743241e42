import Finder.Proofs.Catalog.History
import Finder.Proofs.Query.Outcomes

namespace Finder

namespace Query

-- How many rows the statement of a query gives for the arguments of a call. A count is one row.
inductive Returns (query : Query) (database : Database) (arguments : List Value) : Nat → Prop
  | count (table : String) (bound : List (String × Value)) (size : Nat)
      (hstatement : query.statement = .count table) (hbound : query.bind arguments = .ok bound)
      (hsize : database.size table = .ok size) : Returns query database arguments 1
  | rows (rows : List Row) (h : query.Gives database arguments rows) :
      Returns query database arguments rows.length

-- What a call may come to, and what it reports then.
inductive Called (query : Query) (database : Database) {α : Type} (mapper : Row → Option α)
    (arguments : List Value) : Reply α → Prop
  | refused (h : arguments.length ≠ query.arity) :
      Called query database mapper arguments
        ⟨.error (.wrongArgumentCount query.method query.arity arguments.length), none⟩
  | failed (failure : Failure) (hlength : arguments.length = query.arity)
      (h : ∀ count, ¬query.Returns database arguments count) :
      Called query database mapper arguments ⟨.error (.failed failure), none⟩
  | counted (table : String) (bound : List (String × Value)) (size : Nat)
      (hstatement : query.statement = .count table) (hbound : query.bind arguments = .ok bound)
      (hsize : database.size table = .ok size) :
      Called query database mapper arguments
        ⟨.ok (.count size), some (.rowsCounted bound.length)⟩
  | unmapped (rows : List Row) (hgives : query.Gives database arguments rows)
      (hverb : query.criteria.verb ≠ .exists) (h : ∃ row ∈ rows, mapper row = none) :
      Called query database mapper arguments ⟨.error (.failed .unmapped), none⟩
  | found (rows : List Row) (bound : List (String × Value)) (result : Except CallError (Outcome α))
      (hbound : query.bind arguments = .ok bound) (hgives : query.Gives database arguments rows)
      (hmapped : query.criteria.verb = .exists ∨ ∀ row ∈ rows, mapper row ≠ none)
      (hresult : (∃ outcome, result = .ok outcome) ∨
        ∃ count, result = .error (.manyRows query.method count)) :
      Called query database mapper arguments
        ⟨result, some (.rowsRead bound.length rows.length)⟩

-- What is written of a call, by its kind and two numbers.
def executionText (query : Query) (parameters rows : Nat) : String :=
  if query.criteria.verb = .count then
    "event=query_execute module=sql status=ok kind=count params=" ++ toString parameters
  else
    "event=query_execute module=sql status=ok kind=rows params=" ++ toString parameters ++ " rows="
      ++ toString rows

-- Calls of a query do not tell in their reports what they are about.
structure Discreet (query : Query) : Prop where
  -- Two calls cannot be told apart by what they report, if only their rows are as many.
  alike : ∀ {α β : Type} (shape shape' : Shape) (database database' : Database)
    (mapper : Row → Option α) (mapper' : Row → Option β) (arguments arguments' : List Value)
    (event event' : Event) (count : Nat),
    (query.call shape database mapper arguments).event = some event →
    (query.call shape' database' mapper' arguments').event = some event' →
    query.Returns database arguments count → query.Returns database' arguments' count →
      event.level = event'.level ∧
        ∀ duration duration', event.text duration = event'.text duration'
  told : ∀ {α : Type} (shape : Shape) (database : Database) (mapper : Row → Option α)
    (arguments : List Value) (event : Event),
    (query.call shape database mapper arguments).event = some event →
      ∃ bound count, query.bind arguments = .ok bound ∧ query.Returns database arguments count ∧
        bound.length = (if query.criteria.verb = .count then 0 else query.arity) ∧
        event.level = .debug ∧
        ∀ duration, event.text duration = query.executionText bound.length count
  silent_iff : ∀ {α : Type} (shape : Shape) (database : Database) (mapper : Row → Option α)
    (arguments : List Value),
    (query.call shape database mapper arguments).event = none ↔
      arguments.length ≠ query.arity ∨ (∀ count, ¬query.Returns database arguments count) ∨
        query.criteria.verb ≠ .exists ∧ ∃ rows, query.Gives database arguments rows ∧
          ∃ row ∈ rows, mapper row = none
  -- Too many rows are an error that comes after the report.
  silent_iff_result : ∀ {α : Type} (shape : Shape) (database : Database) (mapper : Row → Option α)
    (arguments : List Value),
    (query.call shape database mapper arguments).event = none ↔
      (∃ expected actual, (query.call shape database mapper arguments).result =
        .error (.wrongArgumentCount query.method expected actual)) ∨
      ∃ failure, (query.call shape database mapper arguments).result = .error (.failed failure)

section

variable {query : Query} {database : Database} {arguments : List Value} {α : Type}
  {mapper : Row → Option α} {reply : Reply α}

theorem Gives.unique {rows others : List Row} (h : query.Gives database arguments rows)
    (h' : query.Gives database arguments others) : rows = others := by
  obtain ⟨selection, bound, hstatement, hbound, hrows⟩ := h
  obtain ⟨_, _, hstatement', hbound', hrows'⟩ := h'
  rw [hstatement, Statement.select.injEq] at hstatement'
  rw [hbound, Except.ok.injEq] at hbound'
  subst hstatement' hbound'
  exact Except.ok.inj (hrows.symm.trans hrows')

theorem Gives.not_count {rows : List Row} (h : query.Gives database arguments rows)
    (table : String) : query.statement ≠ .count table := by
  obtain ⟨_, _, hstatement, _⟩ := h
  rw [hstatement]
  intro he
  cases he

theorem length_eq_of_bind {bound : List (String × Value)} (h : query.bind arguments = .ok bound) :
    arguments.length = query.arity := by
  by_contra hlength
  rw [bind, if_neg hlength] at h
  cases h

theorem eq_of_bind_error {error : CallError} (h : query.bind arguments = .error error) :
    arguments.length ≠ query.arity ∧
      error = .wrongArgumentCount query.method query.arity arguments.length := by
  by_cases hlength : arguments.length = query.arity
  · rw [bind, if_pos hlength] at h
    cases h
  · rw [bind, if_neg hlength] at h
    exact ⟨hlength, (Except.error.inj h).symm⟩

theorem Returns.unique {count other : Nat} (h : query.Returns database arguments count)
    (h' : query.Returns database arguments other) : count = other := by
  cases h with
  | count table bound size hstatement =>
      cases h' with
      | count => rfl
      | rows rows h => exact absurd hstatement (h.not_count table)
  | rows rows h =>
      cases h' with
      | count table bound size hstatement => exact absurd hstatement (h.not_count table)
      | rows others h' => rw [h.unique h']

theorem not_returns_of_size {table : String} {failure : Failure}
    (hstatement : query.statement = .count table) (hsize : database.size table = .error failure)
    (count : Nat) : ¬query.Returns database arguments count := by
  intro h
  cases h with
  | count other bound size hother hbound hsize' =>
      rw [hstatement, Statement.count.injEq] at hother
      rw [← hother, hsize] at hsize'
      cases hsize'
  | rows rows h => exact h.not_count table hstatement

theorem not_returns_of_rows {selection : Selection} {bound : List (String × Value)}
    {failure : Failure} (hstatement : query.statement = .select selection)
    (hbound : query.bind arguments = .ok bound)
    (hrows : selection.rows database bound = .error failure) (count : Nat) :
    ¬query.Returns database arguments count := by
  intro h
  cases h with
  | count other bound size hother =>
      rw [hstatement] at hother
      cases hother
  | rows rows h =>
      obtain ⟨_, _, hstatement', hbound', hrows'⟩ := h
      rw [hstatement, Statement.select.injEq] at hstatement'
      rw [hbound, Except.ok.injEq] at hbound'
      rw [← hstatement', ← hbound', hrows] at hrows'
      cases hrows'

theorem called_call (query : Query) (shape : Shape) (database : Database)
    (mapper : Row → Option α) (arguments : List Value) :
    Called query database mapper arguments (query.call shape database mapper arguments) := by
  unfold call
  cases hbound : query.bind arguments with
  | error error =>
      obtain ⟨hlength, rfl⟩ := eq_of_bind_error hbound
      exact .refused hlength
  | ok bound =>
      have hlength := length_eq_of_bind hbound
      dsimp only
      cases hstatement : query.statement with
      | count table =>
          dsimp only
          cases hsize : database.size table with
          | error failure =>
              exact .failed failure hlength (not_returns_of_size hstatement hsize)
          | ok size => exact .counted table bound size hstatement hbound hsize
      | select selection =>
          dsimp only
          cases hrows : selection.rows database bound with
          | error failure =>
              exact .failed failure hlength (not_returns_of_rows hstatement hbound hrows)
          | ok rows =>
              have hgives : query.Gives database arguments rows :=
                ⟨selection, bound, hstatement, hbound, hrows⟩
              dsimp only
              split
              next hexists =>
                exact .found rows bound _ hbound hgives (.inl hexists) (.inl ⟨_, rfl⟩)
              next hverb =>
                by_cases hunmapped : ∃ row ∈ rows, mapper row = none
                · rw [mapRows_of_unmapped mapper rows hunmapped]
                  exact .unmapped rows hgives hverb hunmapped
                · have hmapped : ∀ row ∈ rows, mapper row ≠ none := by
                    intro row hrow hnone
                    exact hunmapped ⟨row, hrow, hnone⟩
                  obtain ⟨mapped, hall⟩ := exists_mapped mapper rows hmapped
                  rw [(mapRows_eq_ok_iff mapper rows mapped).mpr hall]
                  exact .found rows bound _ hbound hgives (.inr hmapped)
                    (query.shaped_result shape mapped)

theorem Called.event_eq_none_iff (h : Called query database mapper arguments reply) :
    reply.event = none ↔
      arguments.length ≠ query.arity ∨ (∀ count, ¬query.Returns database arguments count) ∨
        query.criteria.verb ≠ .exists ∧ ∃ rows, query.Gives database arguments rows ∧
          ∃ row ∈ rows, mapper row = none := by
  cases h with
  | refused h => exact iff_of_true rfl (.inl h)
  | failed failure hlength h => exact iff_of_true rfl (.inr (.inl h))
  | unmapped rows hgives hverb h => exact iff_of_true rfl (.inr (.inr ⟨hverb, rows, hgives, h⟩))
  | counted table bound size hstatement hbound hsize =>
      refine iff_of_false (by simp) ?_
      rintro (hlength | hnever | ⟨_, rows, hgives, _⟩)
      · exact hlength (length_eq_of_bind hbound)
      · exact hnever 1 (.count table bound size hstatement hbound hsize)
      · exact hgives.not_count table hstatement
  | found rows bound result hbound hgives hmapped hresult =>
      refine iff_of_false (by simp) ?_
      rintro (hlength | hnever | ⟨hverb, others, hothers, row, hrow, hnone⟩)
      · exact hlength (length_eq_of_bind hbound)
      · exact hnever rows.length (.rows rows hgives)
      · rw [← hgives.unique hothers] at hrow
        rcases hmapped with hexists | hmapped
        · exact hverb hexists
        · exact hmapped row hrow hnone

theorem Called.event_eq_none_iff_result (h : Called query database mapper arguments reply) :
    reply.event = none ↔
      (∃ expected actual,
        reply.result = .error (.wrongArgumentCount query.method expected actual)) ∨
      ∃ failure, reply.result = .error (.failed failure) := by
  cases h with
  | refused h => simp
  | failed failure hlength h => simp
  | unmapped rows hgives hverb h => simp
  | counted table bound size hstatement hbound hsize => simp
  | found rows bound result hbound hgives hmapped hresult =>
      rcases hresult with ⟨outcome, rfl⟩ | ⟨count, rfl⟩
      · simp
      · simp

end

section

variable {schema : Schema} {root method : String} {query : Query}

-- Just the queries that count have a statement that does.
theorem Compiled.verb_eq_count_iff (h : Compiled schema schema root method query) :
    query.criteria.verb = .count ↔ ∃ table, query.statement = .count table := by
  constructor
  · intro hverb
    obtain ⟨table, _, hstatement, _⟩ := (h.counts hverb).statement_eq
    exact ⟨table, hstatement⟩
  · rintro ⟨table, hstatement⟩
    by_contra hverb
    obtain ⟨selection, hselection, _⟩ := Statement.finds_of_find _ _ _ _ (h.find_eq hverb).1
    rw [hselection] at hstatement
    cases hstatement

-- A find binds all its arguments, and a count none.
theorem Compiled.length_bound (h : Compiled schema schema root method query)
    (arguments : List Value) (bound : List (String × Value))
    (hbound : query.bind arguments = .ok bound) :
    bound.length = if query.criteria.verb = .count then 0 else query.arity := by
  have hlength := length_eq_of_bind hbound
  by_cases hverb : query.criteria.verb = .count
  · rw [bind, if_pos hlength, (h.counts hverb).bindings_eq, List.filterMap_nil] at hbound
    rw [if_pos hverb, ← Except.ok.inj hbound, List.length_nil]
  · rw [query.bind_eq arguments (h.find_eq hverb).2 hlength] at hbound
    rw [if_neg hverb, ← Except.ok.inj hbound, List.length_zip, h.names_eq, List.length_map,
      ← h.arity_eq, hlength, Nat.min_self]

theorem Called.told {database : Database} {α : Type} {mapper : Row → Option α}
    {arguments : List Value} {reply : Reply α} {event : Event}
    (h : Called query database mapper arguments reply)
    (hcompiled : Compiled schema schema root method query) (hevent : reply.event = some event) :
    ∃ bound count, query.bind arguments = .ok bound ∧ query.Returns database arguments count ∧
      bound.length = (if query.criteria.verb = .count then 0 else query.arity) ∧
      event.level = .debug ∧
      ∀ duration, event.text duration = query.executionText bound.length count := by
  cases h with
  | refused h => cases hevent
  | failed failure hlength h => cases hevent
  | unmapped rows hgives hverb h => cases hevent
  | counted table bound size hstatement hbound hsize =>
      cases hevent
      have hverb := hcompiled.verb_eq_count_iff.mpr ⟨table, hstatement⟩
      refine ⟨bound, 1, hbound, .count table bound size hstatement hbound hsize,
        hcompiled.length_bound arguments bound hbound, rfl, fun duration => ?_⟩
      rw [executionText, if_pos hverb]
      rfl
  | found rows bound result hbound hgives hmapped hresult =>
      cases hevent
      have hverb : query.criteria.verb ≠ .count := by
        rw [ne_eq, hcompiled.verb_eq_count_iff]
        rintro ⟨table, hstatement⟩
        exact hgives.not_count table hstatement
      refine ⟨bound, rows.length, hbound, .rows rows hgives,
        hcompiled.length_bound arguments bound hbound, rfl, fun duration => ?_⟩
      rw [executionText, if_neg hverb]
      rfl

theorem Compiled.discreet (h : Compiled schema schema root method query) : Discreet query where
  alike := by
    intro _ _ shape shape' database database' mapper mapper' arguments arguments' event event' count
      hevent hevent' hreturns hreturns'
    obtain ⟨bound, rows, _, hrows, hlength, hlevel, htext⟩ :=
      (called_call query shape database mapper arguments).told h hevent
    obtain ⟨bound', rows', _, hrows', hlength', hlevel', htext'⟩ :=
      (called_call query shape' database' mapper' arguments').told h hevent'
    obtain rfl := hrows.unique hreturns
    obtain rfl := hrows'.unique hreturns'
    refine ⟨hlevel.trans hlevel'.symm, fun duration duration' => ?_⟩
    rw [htext, htext', hlength, hlength']
  told := fun shape database mapper arguments _ hevent =>
    (called_call query shape database mapper arguments).told h hevent
  silent_iff := fun shape database mapper arguments =>
    (called_call query shape database mapper arguments).event_eq_none_iff
  silent_iff_result := fun shape database mapper arguments =>
    (called_call query shape database mapper arguments).event_eq_none_iff_result

end

end Query

namespace Catalog

theorem Stored.compiled {schema : Schema} {presented : List Declaration} {name : String}
    {entry : CatalogEntry} (h : Stored schema presented name entry) :
    ∃ root, Query.Compiled schema schema root name entry.query := by
  obtain ⟨declaration, query, _, hquery, rfl⟩ := h
  exact ⟨declaration.root, (Query.compile_eq_ok_iff _ _ _ _).mp hquery⟩

-- What is stored in a catalog, after any calls that presented declarations, was compiled.
theorem exists_compiled (schema : Schema) (calls : List Registration) (name : String)
    (entry : CatalogEntry)
    (h : ((empty schema).afterAttempts ((empty schema).history calls)).get? name = some entry) :
    ∃ root, Query.Compiled schema schema root name entry.query := by
  have hstored := ((triesAll_history (empty schema) calls).get?_iff name entry).mp h
  exact hstored.compiled

-- No call of a stored query reports what its arguments are, or what the database holds.
theorem discreet_of_stored (schema : Schema) (calls : List Registration) (name : String)
    (entry : CatalogEntry)
    (h : ((empty schema).afterAttempts ((empty schema).history calls)).get? name = some entry) :
    entry.query.Discreet := by
  obtain ⟨root, hcompiled⟩ := exists_compiled schema calls name entry h
  exact hcompiled.discreet

-- Nobody here has a pet, and all are namesakes.
def hamlet : Database where
  tables := [
    ⟨"owner", ["id", "name"], [[.integer 4, .text "Cid"], [.integer 5, .text "Cid"],
      [.integer 6, .text "Cid"]]⟩,
    ⟨"pet", ["id", "owner"], []⟩]

def cidRows : List Row :=
  [[("id", .integer 4), ("name", .text "Cid"), ("pet_id", .null)],
    [("id", .integer 5), ("name", .text "Cid"), ("pet_id", .null)],
    [("id", .integer 6), ("name", .text "Cid"), ("pet_id", .null)]]

theorem findOwners_gives_cidRows : Query.findOwners.Gives hamlet [.text "Cid"] cidRows :=
  ⟨Query.ownersNamed, [("name", .text "Cid")], rfl, by decide +kernel, by decide +kernel⟩

def ownersByName : Declaration :=
  ⟨"findByName", "Owner", .single⟩

theorem discreet_of_stored_findOwners :
    ((empty Query.owners).afterAttempts ((empty Query.owners).history [.one ownersByName])).get?
        "findByName" = some ⟨"findByName", Query.findOwners, .single⟩ ∧
      ∃ event event', (Query.findOwners.call .single Query.village some [.text "Ann"]).event =
          some event ∧
        (Query.findOwners.call .single hamlet some [.text "Cid"]).event = some event' ∧
        ∀ duration duration', event.text duration = event'.text duration' := by
  have hstored : ((empty Query.owners).afterAttempts
      ((empty Query.owners).history [.one ownersByName])).get? "findByName" =
        some ⟨"findByName", Query.findOwners, .single⟩ := by
    refine ((triesAll_history (empty Query.owners) [.one ownersByName]).get?_iff _ _).mpr ?_
    have hoffers : Offers Query.owners "findByName" ownersByName :=
      ⟨rfl, Query.findOwners, Query.compile_findOwners⟩
    exact ⟨ownersByName, Query.findOwners, ⟨[], [], rfl, hoffers, by simp⟩,
      Query.compile_findOwners, rfl⟩
  have hdiscreet := discreet_of_stored Query.owners [.one ownersByName] "findByName" _ hstored
  refine ⟨hstored, .rowsRead 1 3, .rowsRead 1 3, by decide +kernel, by decide +kernel, ?_⟩
  exact (hdiscreet.alike .single .single Query.village hamlet some some [.text "Ann"] [.text "Cid"]
    _ _ 3 (by decide +kernel) (by decide +kernel) (.rows _ Query.findOwners_gives)
    (.rows _ findOwners_gives_cidRows)).2

end Catalog

end Finder
