import Finder.Proofs.Criteria.Resolution
import Finder.Proofs.Criteria.Rules
import Finder.Proofs.Parameters.Insertion
import Finder.Proofs.Statement.Generation
import Finder.Query

namespace Finder

theorem check_eq_error_iff (flaw : Option Violation) (violation : Violation) :
    Violation.check flaw = .error violation ↔ flaw = some violation := by
  cases flaw <;> simp [Violation.check]

theorem check_eq_ok_iff (flaw : Option Violation) (done : Unit) :
    Violation.check flaw = .ok done ↔ flaw = none := by
  cases flaw <;> simp [Violation.check]

namespace Verb

-- The verbs that make queries.
def reading : List String :=
  ["find", "read", "get", "query", "stream", "count", "exists"]

theorem ofKeyword_eq_count_iff (keyword : String) : ofKeyword keyword = .count ↔ keyword = "count" := by
  unfold ofKeyword
  split <;> simp_all

theorem flaw?_ofKeyword_eq_none_iff (keyword : String) :
    (ofKeyword keyword).flaw? = none ↔ keyword ∈ reading := by
  unfold ofKeyword
  split <;> simp_all [flaw?, isReading, reading]

theorem flaw?_ofKeyword_eq_some_iff (keyword : String) (violation : Violation) :
    (ofKeyword keyword).flaw? = some violation ↔
      keyword ∉ reading ∧ violation = .modifyingVerb keyword := by
  unfold ofKeyword
  split <;> simp_all [flaw?, isReading, reading, Verb.keyword, eq_comm]

end Verb

namespace Query

-- What each stage has passed on.
structure Compiled (schema storage : Schema) (root method : String) (query : Query) : Prop where
  exists_name : ∃ name, MethodName.parse method = .ok name ∧ name.verb ∈ Verb.reading ∧
    Criteria.resolve schema root name = .ok query.criteria
  rules : query.criteria.flaw? schema root = none
  parameters : Parameters.ofCriteria query.criteria = .ok query.parameters
  plan : Query.plan storage root query.criteria.verb query.parameters =
    .ok (query.statement, query.bindings)
  method_eq : query.method = method
  root_eq : query.root = root

theorem derive_eq_ok_iff (schema storage : Schema) (root method : String) (query : Query) :
    derive schema storage root method = .ok query ↔ Compiled schema storage root method query := by
  simp only [derive, except_bind_eq_ok, check_eq_ok_iff]
  constructor
  · rintro ⟨name, hname, _, hflaw, criteria, hc, _, hf, parameters, hp, ⟨statement, bindings⟩,
      hplan, hq⟩
    obtain rfl : _ = query := Except.ok.inj hq
    have hverb := (Verb.flaw?_ofKeyword_eq_none_iff _).mp hflaw
    exact ⟨⟨name, hname, hverb, hc⟩, hf, hp, hplan, rfl, rfl⟩
  · rintro ⟨⟨name, hname, hverb, hc⟩, hf, hp, hplan, rfl, rfl⟩
    have hflaw := (Verb.flaw?_ofKeyword_eq_none_iff _).mpr hverb
    exact ⟨name, hname, (), hflaw, _, hc, (), hf, _, hp, _, hplan, rfl⟩

-- Where a compilation stops: at the first stage that passes nothing on.
inductive Stops (schema storage : Schema) (root method : String) (violation : Violation) : Prop
  | name (h : MethodName.parse method = .error violation)
  | verb (name : MethodName) (hname : MethodName.parse method = .ok name)
      (hverb : name.verb ∉ Verb.reading) (h : violation = .modifyingVerb name.verb)
  | criteria (name : MethodName) (hname : MethodName.parse method = .ok name)
      (hverb : name.verb ∈ Verb.reading) (h : Criteria.resolve schema root name = .error violation)
  | rules (name : MethodName) (criteria : Criteria) (hname : MethodName.parse method = .ok name)
      (hverb : name.verb ∈ Verb.reading) (hcriteria : Criteria.resolve schema root name = .ok criteria)
      (h : criteria.flaw? schema root = some violation)
  | parameters (name : MethodName) (criteria : Criteria) (hname : MethodName.parse method = .ok name)
      (hverb : name.verb ∈ Verb.reading) (hcriteria : Criteria.resolve schema root name = .ok criteria)
      (hrules : criteria.flaw? schema root = none)
      (h : Parameters.ofCriteria criteria = .error violation)
  | plan (name : MethodName) (criteria : Criteria) (parameters : Parameters)
      (hname : MethodName.parse method = .ok name) (hverb : name.verb ∈ Verb.reading)
      (hcriteria : Criteria.resolve schema root name = .ok criteria)
      (hrules : criteria.flaw? schema root = none)
      (hparameters : Parameters.ofCriteria criteria = .ok parameters)
      (h : Query.plan storage root criteria.verb parameters = .error violation)

theorem derive_eq_error_iff (schema storage : Schema) (root method : String)
    (violation : Violation) :
    derive schema storage root method = .error violation ↔
      Stops schema storage root method violation := by
  simp only [derive, except_bind_eq_error, check_eq_ok_iff, check_eq_error_iff,
    Verb.flaw?_ofKeyword_eq_none_iff, Verb.flaw?_ofKeyword_eq_some_iff]
  constructor
  · rintro (h | ⟨name, hname, ⟨hverb, h⟩ | ⟨_, hverb, h | ⟨criteria, hcriteria, h | ⟨_, hrules,
      h | ⟨parameters, hparameters, h | ⟨made, _, h⟩⟩⟩⟩⟩⟩)
    · exact .name h
    · exact .verb name hname hverb h
    · exact .criteria name hname hverb h
    · exact .rules name criteria hname hverb hcriteria h
    · exact .parameters name criteria hname hverb hcriteria hrules h
    · exact .plan name criteria parameters hname hverb hcriteria hrules hparameters h
    · cases h
  · intro h
    cases h with
    | name h => exact .inl h
    | verb name hname hverb h => exact .inr ⟨name, hname, .inl ⟨hverb, h⟩⟩
    | criteria name hname hverb h => exact .inr ⟨name, hname, .inr ⟨(), hverb, .inl h⟩⟩
    | rules name criteria hname hverb hcriteria h =>
        exact .inr ⟨name, hname, .inr ⟨(), hverb, .inr ⟨criteria, hcriteria, .inl h⟩⟩⟩
    | parameters name criteria hname hverb hcriteria hrules h =>
        exact .inr ⟨name, hname, .inr ⟨(), hverb, .inr ⟨criteria, hcriteria,
          .inr ⟨(), hrules, .inl h⟩⟩⟩⟩
    | plan name criteria parameters hname hverb hcriteria hrules hparameters h =>
        exact .inr ⟨name, hname, .inr ⟨(), hverb, .inr ⟨criteria, hcriteria,
          .inr ⟨(), hrules, .inr ⟨parameters, hparameters, .inl h⟩⟩⟩⟩⟩

theorem compile_eq_error_iff (schema : Schema) (root method : String) (error : CompileError) :
    compile schema root method = .error error ↔
      error.method = method ∧ Stops schema schema root method error.violation := by
  rw [← derive_eq_error_iff, compile, compileFor]
  cases derive schema schema root method with
  | ok query => simp [Except.mapError]
  | error violation =>
      cases error
      simp [Except.mapError, eq_comm]

theorem compile_eq_ok_iff (schema : Schema) (root method : String) (query : Query) :
    compile schema root method = .ok query ↔ Compiled schema schema root method query := by
  rw [← derive_eq_ok_iff, compile, compileFor]
  cases derive schema schema root method <;> simp [Except.mapError]

theorem plan_eq_ok_iff (storage : Schema) (root : String) (verb : Verb) (parameters : Parameters)
    (statement : Statement) (bindings : List Binding) :
    plan storage root verb parameters = .ok (statement, bindings) ↔
      verb = .count ∧ Statement.countAll storage root = .ok statement ∧ bindings = [] ∨
        verb ≠ .count ∧ Statement.find storage root parameters = .ok statement ∧
          bindings = bindingsFrom 0 parameters.entries := by
  have hmap {α β : Type} (computed : Except Violation α) (f : α → β) (result : β) :
      computed.map f = .ok result ↔ ∃ value, computed = .ok value ∧ f value = result := by
    cases computed <;> simp [Except.map]
  cases verb <;> simp [plan, hmap, eq_comm]

-- A count of all rows of the root. No argument is used in it.
structure Counts (storage : Schema) (root : String) (query : Query) : Prop where
  statement_eq : ∃ table, storage.tableName? root = some table ∧ query.statement = .count table ∧
    query.text = "SELECT COUNT(*) FROM " ++ table
  bindings_eq : query.bindings = []

namespace Compiled

variable {schema storage : Schema} {root method : String} {query : Query}

-- The parameters of a query are its predicates, told apart by the properties that they compare.
theorem leaves_nodup (h : Compiled schema storage root method query) :
    (query.criteria.predicates.map Predicate.leaf).Nodup :=
  ((Parameters.ofCriteria_eq_ok_iff _ _).mp h.parameters).1

theorem entries_eq (h : Compiled schema storage root method query) :
    query.parameters.entries = query.criteria.predicates.map Parameters.ofPredicate := by
  rw [((Parameters.ofCriteria_eq_ok_iff _ _).mp h.parameters).2]

theorem names_eq (h : Compiled schema storage root method query) :
    query.parameters.names = query.criteria.predicates.map Predicate.leaf := by
  rw [Parameters.names, h.entries_eq, List.map_map]
  rfl

theorem arity_eq (h : Compiled schema storage root method query) :
    query.arity = query.criteria.predicates.length := by
  rw [arity, Parameters.size, h.entries_eq, List.length_map]

theorem find_eq (h : Compiled schema storage root method query)
    (hverb : query.criteria.verb ≠ .count) :
    Statement.find storage root query.parameters = .ok query.statement ∧
      query.bindings = bindingsFrom 0 query.parameters.entries := by
  rcases (plan_eq_ok_iff _ _ _ _ _ _).mp h.plan with ⟨hcount, _⟩ | ⟨_, hfind, hbindings⟩
  · exact absurd hcount hverb
  · exact ⟨hfind, hbindings⟩

-- Queries with the same predicates take the same parameters, on whatever root. Where they find rows of
-- one root, they find them by the same statement.
theorem parameters_eq_of_predicates {root' method' : String} {other : Query}
    (h : Compiled schema storage root method query)
    (h' : Compiled schema storage root' method' other)
    (hpredicates : other.criteria.predicates = query.criteria.predicates) :
    other.parameters = query.parameters := by
  rw [((Parameters.ofCriteria_eq_ok_iff _ _).mp h'.parameters).2, hpredicates,
    ((Parameters.ofCriteria_eq_ok_iff _ _).mp h.parameters).2]

theorem find_eq_of_predicates {method' : String} {other : Query}
    (h : Compiled schema storage root method query)
    (h' : Compiled schema storage root method' other)
    (hpredicates : other.criteria.predicates = query.criteria.predicates)
    (hverb : query.criteria.verb ≠ .count) (hverb' : other.criteria.verb ≠ .count) :
    other.statement = query.statement ∧ other.bindings = query.bindings := by
  obtain ⟨hfind, hbindings⟩ := h.find_eq hverb
  obtain ⟨hfind', hbindings'⟩ := h'.find_eq hverb'
  rw [h.parameters_eq_of_predicates h' hpredicates] at hfind' hbindings'
  exact ⟨Except.ok.inj (hfind'.symm.trans hfind), hbindings'.trans hbindings.symm⟩

theorem counts (h : Compiled schema storage root method query)
    (hverb : query.criteria.verb = .count) : Counts storage root query := by
  rcases (plan_eq_ok_iff _ _ _ _ _ _).mp h.plan with ⟨_, hcount, hbindings⟩ | ⟨hne, _⟩
  · obtain ⟨table, htable, hstatement⟩ := (Statement.countAll_eq_ok_iff _ _ _).mp hcount
    refine ⟨⟨table, htable, hstatement, ?_⟩, hbindings⟩
    unfold text
    rw [hstatement]
    rfl
  · exact absurd hverb hne

end Compiled

-- Owners and their pets, of which each has one row for its owner.
def owners : Schema where
  entities := [
    ⟨"Owner", none, "id", none, [⟨"id", .scalar .integer, none⟩, ⟨"name", .scalar .text, none⟩,
      ⟨"pet", .entity "Pet", none⟩]⟩,
    ⟨"Pet", none, "id", none, [⟨"id", .scalar .integer, none⟩]⟩]
  ascending := by decide +kernel
  named := by decide +kernel
  flawless := by decide +kernel

end Query

end Finder
