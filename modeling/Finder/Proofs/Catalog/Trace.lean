import Finder.Proofs.Catalog.Calls

namespace Finder

-- An event as it is written. How long a compilation took is left open.
structure Line where
  level : Level
  text : String → String

def Event.line (event : Event) : Line :=
  ⟨event.level, fun duration => event.text duration⟩

namespace Line

def ofCompilation (root method : String) : Except CompileError Query → Line
  | .ok query => ⟨.info, fun duration =>
      "event=query_compile module=query status=ok method=" ++ method ++ " root=" ++ root
        ++ " predicates=" ++ toString query.criteria.predicates.length ++ " duration_us="
        ++ duration⟩
  | .error error => ⟨.warn, fun duration =>
      "event=query_compile module=query status=error method=" ++ method ++ " root=" ++ root
        ++ " error_code=" ++ error.violation.code ++ " duration_us=" ++ duration⟩

-- Under a name that is stored nothing is compiled.
def ofAnswer (declaration : Declaration) : Except CatalogError CatalogEntry → List Line
  | .ok entry => [ofCompilation declaration.root declaration.method (.ok entry.query)]
  | .error (.rejected error) => [ofCompilation declaration.root declaration.method (.error error)]
  | .error (.alreadyStored _) => []

-- Of several declarations each that failed is told once more, for whatever reason it did.
def ofFailure (declaration : Declaration) : Except CatalogError CatalogEntry → List Line
  | .ok _ => []
  | .error error => [⟨.error, fun _ =>
      "event=query_register module=query status=error method=" ++ declaration.method ++ " error="
        ++ error.message⟩]

def ofExecution (query : Query) (rows : Nat) : Line :=
  ⟨.debug, fun _ =>
    query.executionText (if query.criteria.verb = .count then 0 else query.arity) rows⟩

end Line

-- The statement gives its rows, and the mapper takes all that it is shown. Whether there are too many
-- is asked only then.
structure Query.Completes (query : Query) (database : Database) {α : Type}
    (mapper : Row → Option α) (arguments : List Value) (count : Nat) : Prop where
  returns : query.Returns database arguments count
  mapped : query.criteria.verb = .exists ∨
    ∀ rows, query.Gives database arguments rows → ∀ row ∈ rows, mapper row ≠ none

namespace Catalog

-- What a program does with a catalog.
inductive Step : Type 1 where
  | compile (root method : String)
  | present (call : Registration)
  | execute {α : Type} (name : String) (database : Database) (mapper : Row → Option α)
      (arguments : List Value)

namespace Step

def declarations : Step → List Declaration
  | .present call => call.declarations
  | .compile _ _ | .execute _ _ _ _ => []

-- The catalog that a step leaves.
def after (catalog : Catalog) : Step → Catalog
  | .present call => catalog.afterAttempts (call.attempts catalog)
  | .compile _ _ | .execute _ _ _ _ => catalog

-- Only a query that is stored can be called.
def events (catalog : Catalog) : Step → List Event
  | .compile root method =>
      [Event.ofCompilation root method (Query.compile catalog.schema root method)]
  | .present call => (call.attempts catalog).flatMap Attempt.events
  | .execute name database mapper arguments =>
      match catalog.get? name with
      | none => []
      | some entry => (entry.query.call entry.shape database mapper arguments).event.toList

end Step

-- All that is reported while steps are taken one after the other.
def log (catalog : Catalog) : List Step → List Event
  | [] => []
  | step :: rest => step.events catalog ++ (step.after catalog).log rest

-- The lines that are owed for several declarations, by the results of their attempts.
inductive OwesAll (schema : Schema) : List Declaration → List Declaration →
    List (Except CatalogError CatalogEntry) → List Line → Prop
  | nil (before : List Declaration) : OwesAll schema before [] [] []
  | cons {before : List Declaration} {declaration : Declaration}
      {result : Except CatalogError CatalogEntry} {declarations : List Declaration}
      {results : List (Except CatalogError CatalogEntry)} {lines : List Line}
      (first : Answered schema before declaration result)
      (rest : OwesAll schema (before ++ [declaration]) declarations results lines) :
      OwesAll schema before (declaration :: declarations) (result :: results)
        (Line.ofAnswer declaration result ++ Line.ofFailure declaration result ++ lines)

-- The lines that are owed for a step, by what was presented before it and what it returns.
inductive Owes (schema : Schema) (before : List Declaration) (catalog : Catalog) :
    Step → List Line → Prop
  | compile (root method : String) :
      Owes schema before catalog (.compile root method)
        [.ofCompilation root method (Query.compile schema root method)]
  | one (declaration : Declaration)
      (h : Answered schema before declaration (catalog.register declaration).result) :
      Owes schema before catalog (.present (.one declaration))
        (Line.ofAnswer declaration (catalog.register declaration).result)
  | several (declarations : List Declaration) (lines : List Line)
      (h : OwesAll schema before declarations
        ((catalog.attempts declarations).map Attempt.result) lines) :
      Owes schema before catalog (.present (.several declarations)) lines
  | unknown {α : Type} (name : String) (database : Database) (mapper : Row → Option α)
      (arguments : List Value) (h : ∀ entry, ¬Stored schema before name entry) :
      Owes schema before catalog (.execute name database mapper arguments) []
  | stopped {α : Type} (name : String) (database : Database) (mapper : Row → Option α)
      (arguments : List Value) (entry : CatalogEntry) (hstored : Stored schema before name entry)
      (h : ∀ count, ¬entry.query.Completes database mapper arguments count)
      (hresult :
        (∃ expected actual, (entry.query.call entry.shape database mapper arguments).result =
          .error (.wrongArgumentCount entry.query.method expected actual)) ∨
        ∃ failure, (entry.query.call entry.shape database mapper arguments).result =
          .error (.failed failure)) :
      Owes schema before catalog (.execute name database mapper arguments) []
  -- The rows that are too many for one are read all the same.
  | completed {α : Type} (name : String) (database : Database) (mapper : Row → Option α)
      (arguments : List Value) (entry : CatalogEntry) (count : Nat)
      (hstored : Stored schema before name entry)
      (h : entry.query.Completes database mapper arguments count)
      (hresult :
        (∃ outcome, (entry.query.call entry.shape database mapper arguments).result =
          .ok outcome) ∨
        entry.shape = .single ∧ 1 < count ∧
          (entry.query.call entry.shape database mapper arguments).result =
            .error (.manyRows entry.query.method count)) :
      Owes schema before catalog (.execute name database mapper arguments)
        [.ofExecution entry.query count]

-- The lines of a run are those of its steps in their order.
inductive Traced (schema : Schema) : List Declaration → Catalog → List Step → List Line → Prop
  | nil (before : List Declaration) (catalog : Catalog) : Traced schema before catalog [] []
  | cons {before : List Declaration} {catalog : Catalog} {step : Step} {steps : List Step}
      {lines later : List Line} (first : Owes schema before catalog step lines)
      (rest : Traced schema (before ++ step.declarations) (step.after catalog) steps later) :
      Traced schema before catalog (step :: steps) (lines ++ later)

end Catalog

namespace Query

section

variable {query : Query} {database : Database} {arguments : List Value} {α : Type}
  {mapper : Row → Option α}

theorem event_eq_none_iff_not_completes (shape : Shape) :
    (query.call shape database mapper arguments).event = none ↔
      ∀ count, ¬query.Completes database mapper arguments count := by
  rw [(called_call query shape database mapper arguments).event_eq_none_iff]
  constructor
  · rintro (hlength | hnever | ⟨hverb, rows, hgives, row, hrow, hnone⟩) count hcompletes
    · cases hcompletes.returns with
      | count table bound size hstatement hbound hsize => exact hlength (length_eq_of_bind hbound)
      | rows rows hgives =>
          obtain ⟨_, _, _, hbound, _⟩ := hgives
          exact hlength (length_eq_of_bind hbound)
    · exact hnever count hcompletes.returns
    · rcases hcompletes.mapped with hexists | hmapped
      · exact hverb hexists
      · exact hmapped rows hgives row hrow hnone
  · intro hnever
    by_cases hreturns : ∃ count, query.Returns database arguments count
    · obtain ⟨count, hreturns⟩ := hreturns
      have hunmapped := fun hmapped => hnever count ⟨hreturns, hmapped⟩
      rw [imp_false, not_or] at hunmapped
      push Not at hunmapped
      exact .inr (.inr hunmapped)
    · exact .inr (.inl (not_exists.mp hreturns))

-- Rows that were mapped are as many as were read.
theorem Completes.result_cases {count : Nat} (h : query.Completes database mapper arguments count)
    (shape : Shape) :
    (∃ outcome, (query.call shape database mapper arguments).result = .ok outcome) ∨
      shape = .single ∧ 1 < count ∧
        (query.call shape database mapper arguments).result =
          .error (.manyRows query.method count) := by
  cases h.returns with
  | count table bound size hstatement hbound hsize =>
      refine .inl ⟨.count size, ?_⟩
      simp only [call, hbound, hstatement, hsize]
  | rows rows hgives =>
      rw [hgives.result_eq]
      by_cases hverb : query.criteria.verb = .exists
      · rw [if_pos hverb]
        exact .inl ⟨_, rfl⟩
      · rw [if_neg hverb]
        have hmapped := h.mapped.resolve_left hverb rows hgives
        obtain ⟨mapped, hall⟩ := exists_mapped mapper rows hmapped
        have hlength : rows.length = mapped.length := by
          simpa using congrArg List.length hall
        rw [(mapRows_eq_ok_iff mapper rows mapped).mpr hall, hlength]
        exact query.shaped_cases shape mapped

end

-- What is written of a call that completes.
theorem Completes.lines_eq {schema : Schema} {root method : String} {query : Query}
    {database : Database} {arguments : List Value} {α : Type} {mapper : Row → Option α}
    {count : Nat} (h : query.Completes database mapper arguments count)
    (hcompiled : Compiled schema schema root method query) (shape : Shape) :
    (query.call shape database mapper arguments).event.toList.map Event.line =
      [.ofExecution query count] := by
  have hsome : (query.call shape database mapper arguments).event ≠ none := by
    rw [ne_eq, event_eq_none_iff_not_completes]
    exact fun hnever => hnever count h
  obtain ⟨event, hevent⟩ := Option.ne_none_iff_exists'.mp hsome
  obtain ⟨bound, other, _, hreturns, hlength, hlevel, htext⟩ :=
    (called_call query shape database mapper arguments).told hcompiled hevent
  obtain rfl := hreturns.unique h.returns
  have hline : event.line = .ofExecution query other := by
    rw [Event.line, Line.ofExecution, ← hlength, hlevel]
    congr 1
    funext duration
    exact htext duration
  rw [hevent, Option.toList_some, List.map_singleton, hline]

end Query

namespace Catalog

theorem lines_ofCompilation (root method : String) (result : Except CompileError Query) :
    (Event.ofCompilation root method result).line = .ofCompilation root method result := by
  cases result <;> rfl

theorem lines_register (catalog : Catalog) (declaration : Declaration) :
    (catalog.register declaration).events.map Event.line =
      Line.ofAnswer declaration (catalog.register declaration).result := by
  by_cases hc : catalog.contains declaration.method
  · rw [register, if_pos hc]
    rfl
  · rw [register, if_neg hc]
    cases Query.compile catalog.schema declaration.root declaration.method <;> rfl

theorem lines_registerNext (catalog : Catalog) (declaration : Declaration) :
    (catalog.registerNext declaration).events.map Event.line =
      Line.ofAnswer declaration (catalog.registerNext declaration).result ++
        Line.ofFailure declaration (catalog.registerNext declaration).result := by
  have hlines := lines_register catalog declaration
  unfold registerNext
  cases hresult : (catalog.register declaration).result with
  | ok entry =>
      rw [hresult] at hlines
      simp only [hresult, hlines, Line.ofFailure, List.append_nil]
  | error error =>
      rw [hresult] at hlines
      simp only [hresult, List.map_append, hlines, List.append_cancel_left_eq]
      rfl

-- The catalog is what the declarations so far have made of an empty one.
def Holds (schema : Schema) (presented : List Declaration) (catalog : Catalog) : Prop :=
  ∃ attempts, TriesAll (empty schema) presented attempts ∧
    catalog = (empty schema).afterAttempts attempts

section

variable {schema : Schema} {presented : List Declaration} {catalog : Catalog}

theorem holds_empty (schema : Schema) : Holds schema [] (empty schema) :=
  ⟨[], .nil _, rfl⟩

theorem Holds.schema_eq (h : Holds schema presented catalog) : catalog.schema = schema := by
  obtain ⟨attempts, htries, rfl⟩ := h
  exact htries.schema_eq

theorem Holds.get?_iff (h : Holds schema presented catalog) (name : String)
    (entry : CatalogEntry) :
    catalog.get? name = some entry ↔ Stored schema presented name entry := by
  obtain ⟨attempts, htries, rfl⟩ := h
  exact htries.get?_iff name entry

theorem Holds.answered (h : Holds schema presented catalog) {declaration : Declaration}
    {attempt : Attempt} (htries : Tries catalog declaration attempt) :
    Answered schema presented declaration attempt.result := by
  obtain ⟨attempts, hbefore, rfl⟩ := h
  exact htries.answered hbefore

theorem Holds.append (h : Holds schema presented catalog) {declarations : List Declaration}
    {attempts : List Attempt} (htries : TriesAll catalog declarations attempts) :
    Holds schema (presented ++ declarations) (catalog.afterAttempts attempts) := by
  obtain ⟨earlier, hbefore, rfl⟩ := h
  exact ⟨earlier ++ attempts, hbefore.append htries, (afterAttempts_append _ _ _).symm⟩

-- A step keeps the catalog in line with what was presented.
theorem Holds.step (h : Holds schema presented catalog) (step : Step) :
    Holds schema (presented ++ step.declarations) (step.after catalog) := by
  cases step with
  | present call => exact h.append (triesAll_call catalog call)
  | compile root method => exact (List.append_nil presented).symm ▸ h
  | execute name database mapper arguments => exact (List.append_nil presented).symm ▸ h

theorem Holds.owesAll (h : Holds schema presented catalog) (declarations : List Declaration) :
    OwesAll schema presented declarations ((catalog.attempts declarations).map Attempt.result)
      (((catalog.attempts declarations).flatMap Attempt.events).map Event.line) := by
  induction declarations generalizing presented catalog with
  | nil => exact .nil presented
  | cons declaration rest ih =>
      have htries := tries_registerNext catalog declaration
      have hnext : Holds schema (presented ++ [declaration])
          (catalog.registerNext declaration).catalog := h.append (.cons htries (.nil _))
      rw [attempts, List.map_cons, List.flatMap_cons, List.map_append, lines_registerNext]
      exact .cons (h.answered htries) (ih hnext)

theorem Holds.owes (h : Holds schema presented catalog) (step : Step) :
    Owes schema presented catalog step ((step.events catalog).map Event.line) := by
  cases step with
  | compile root method =>
      rw [Step.events, List.map_singleton, lines_ofCompilation, h.schema_eq]
      exact .compile root method
  | present call =>
      cases call with
      | one declaration =>
          have hanswered := h.answered (tries_register catalog declaration)
          rw [Step.events, Registration.attempts, List.flatMap_singleton, lines_register]
          exact .one declaration hanswered
      | several declarations => exact .several declarations _ (h.owesAll declarations)
  | execute name database mapper arguments =>
      rw [Step.events]
      cases hentry : catalog.get? name with
      | none =>
          refine .unknown name database mapper arguments fun entry hstored => ?_
          have hfound := (h.get?_iff name entry).mpr hstored
          simp [hentry] at hfound
      | some entry =>
          have hstored := (h.get?_iff name entry).mp hentry
          obtain ⟨root, hcompiled⟩ := hstored.compiled
          by_cases hcompletes : ∃ count, entry.query.Completes database mapper arguments count
          · obtain ⟨count, hcompletes⟩ := hcompletes
            dsimp only
            rw [hcompletes.lines_eq hcompiled]
            exact .completed name database mapper arguments entry count hstored hcompletes
              (hcompletes.result_cases entry.shape)
          · rw [not_exists] at hcompletes
            have hsilent := (Query.event_eq_none_iff_not_completes entry.shape).mpr hcompletes
            have hcalled :=
              Query.called_call entry.query entry.shape database mapper arguments
            dsimp only
            rw [hsilent]
            exact .stopped name database mapper arguments entry hstored hcompletes
              (hcalled.event_eq_none_iff_result.mp hsilent)

theorem Holds.traced (h : Holds schema presented catalog) (steps : List Step) :
    Traced schema presented catalog steps ((catalog.log steps).map Event.line) := by
  induction steps generalizing presented catalog with
  | nil => exact .nil presented catalog
  | cons step rest ih =>
      rw [log, List.map_append]
      exact .cons (h.owes step) (ih (h.step step))

theorem OwesAll.unique {declarations : List Declaration}
    {results : List (Except CatalogError CatalogEntry)} {lines others : List Line}
    (h : OwesAll schema presented declarations results lines)
    (h' : OwesAll schema presented declarations results others) : lines = others := by
  induction h generalizing others with
  | nil before =>
      cases h'
      rfl
  | cons first _ ih =>
      cases h' with
      | cons first' rest => rw [ih rest]

theorem Owes.unique {step : Step} {lines others : List Line}
    (h : Owes schema presented catalog step lines)
    (h' : Owes schema presented catalog step others) : lines = others := by
  cases h with
  | compile root method => cases h'; rfl
  | one declaration h => cases h'; rfl
  | several declarations lines h =>
      cases h' with
      | several _ _ h' => exact h.unique h'
  | unknown name database mapper arguments h =>
      cases h' with
      | unknown => rfl
      | stopped => rfl
      | completed _ _ _ _ entry count hstored => exact absurd hstored (h entry)
  | stopped name database mapper arguments entry hstored h =>
      cases h' with
      | unknown => rfl
      | stopped => rfl
      | completed _ _ _ _ other count hother hcompletes =>
          obtain rfl := hstored.unique hother
          exact absurd hcompletes (h count)
  | completed name database mapper arguments entry count hstored hcompletes =>
      cases h' with
      | unknown _ _ _ _ h => exact absurd hstored (h entry)
      | stopped _ _ _ _ other hother h =>
          obtain rfl := hstored.unique hother
          exact absurd hcompletes (h count)
      | completed _ _ _ _ other count' hother hcompletes' =>
          obtain rfl := hstored.unique hother
          rw [hcompletes.returns.unique hcompletes'.returns]

theorem Traced.unique {steps : List Step} {lines others : List Line}
    (h : Traced schema presented catalog steps lines)
    (h' : Traced schema presented catalog steps others) : lines = others := by
  induction h generalizing others with
  | nil before catalog =>
      cases h'
      rfl
  | cons first _ ih =>
      cases h' with
      | cons first' rest => rw [first.unique first', ih rest]

end

-- The log is a trace of the steps: it has the lines that are owed for them, and no others.
theorem traced_iff_log (schema : Schema) (steps : List Step) (lines : List Line) :
    Traced schema [] (empty schema) steps lines ↔
      lines = ((empty schema).log steps).map Event.line := by
  have htraced := (holds_empty schema).traced steps
  constructor
  · exact fun h => h.unique htraced
  · rintro rfl
    exact htraced

-- A name that is presented twice is compiled once.
example : ((empty Query.owners).log [.present (.several [ownersByName, ownersByName])]).map
    (fun event => event.text "7") =
      ["event=query_compile module=query status=ok method=findByName root=Owner predicates=1"
          ++ " duration_us=7",
        "event=query_register module=query status=error method=findByName"
          ++ " error=query method already registered: findByName"] := by
  decide +kernel

end Catalog

end Finder
