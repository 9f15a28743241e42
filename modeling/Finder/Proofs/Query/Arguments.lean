import Finder.Call
import Finder.Proofs.Query.Language
import Finder.Proofs.Statement.Results

namespace Finder

-- The reference to a property's parameter, and the condition on its column.
def OwnedProperty.reference (found : OwnedProperty) : String :=
  ":" ++ found.property.name

def OwnedProperty.condition (table : String) (found : OwnedProperty) : String :=
  table ++ "." ++ found.property.columnName ++ " = " ++ found.reference

namespace Query

-- Each binding takes the argument at the place of its parameter.
theorem bindingsFrom_filterMap {α : Type} (parameters : List Parameter) (earlier arguments : List α)
    (hlength : arguments.length = parameters.length) :
    (bindingsFrom earlier.length parameters).filterMap (fun binding =>
        (earlier ++ arguments)[binding.position]?.map fun argument =>
          (binding.parameter.name, argument)) =
      (parameters.map Parameter.name).zip arguments := by
  induction parameters generalizing earlier arguments with
  | nil => simp [bindingsFrom]
  | cons parameter rest ih =>
      obtain ⟨argument, later, rfl⟩ := List.exists_cons_of_length_eq_add_one hlength
      have hrest := ih (earlier ++ [argument]) later (by simpa using hlength)
      rw [List.length_append, List.length_singleton, List.append_assoc, List.singleton_append]
        at hrest
      simp [bindingsFrom, hrest]

theorem bind_eq (query : Query) {α : Type} (arguments : List α)
    (hbindings : query.bindings = bindingsFrom 0 query.parameters.entries)
    (harity : arguments.length = query.arity) :
    query.bind arguments = .ok (query.parameters.names.zip arguments) := by
  have hzip := bindingsFrom_filterMap query.parameters.entries [] arguments harity
  simp only [List.length_nil, List.nil_append] at hzip
  rw [bind, if_pos harity, hbindings, hzip]
  rfl

-- References differ where names do, so that an argument is found under either.
theorem lookup_supplied {α : Type} (bound : List (String × α)) (name : String) :
    (supplied bound).lookup (":" ++ name) = bound.lookup name := by
  induction bound with
  | nil => rfl
  | cons pair rest ih =>
      have hsame : (":" ++ name == ":" ++ pair.1) = (name == pair.1) := by
        rw [Bool.eq_iff_iff, beq_iff_eq, beq_iff_eq, String.append_right_inj]
      rw [supplied, List.map_cons, List.lookup_cons, List.lookup_cons, hsame]
      cases name == pair.1 with
      | true => rfl
      | false => exact ih

theorem argument_eq_supplied (bound : List (String × Value)) (parameter : Parameter) :
    Selection.argument bound parameter =
      ((supplied bound).lookup parameter.reference).getD .null := by
  rw [Parameter.reference, lookup_supplied, Selection.argument]

theorem map_reference (found : List OwnedProperty) :
    found.map OwnedProperty.reference =
      (found.map fun property => property.property.name).map (":" ++ ·) := by
  rw [List.map_map]
  rfl

theorem supplied_zip {α : Type} (names : List String) (arguments : List α) :
    supplied (names.zip arguments) = (names.map (":" ++ ·)).zip arguments := by
  rw [List.zip_map_left]
  rfl

-- A condition that compares a visible property is written with its column and its reference.
theorem condition_text {declared : Declarations} (root table : String) (found : OwnedProperty)
    (condition : Condition) (hvisible : declared.property? root found.property.name = some found)
    (h : Statement.Compares declared root table (Parameters.ofPredicate (.ofProperty found))
      condition) : condition.text = found.condition table := by
  obtain ⟨other, kind, hother, _, rfl⟩ := h
  obtain rfl : other = found := Option.some.inj (hother.symm.trans hvisible)
  rfl

-- The places of the bindings, and the names that they bind.
theorem bindingsFrom_map (position : Nat) (parameters : List Parameter) :
    (bindingsFrom position parameters).map
        (fun binding => (binding.position, binding.parameter.name)) =
      (List.range' position parameters.length).zip (parameters.map Parameter.name) := by
  induction parameters generalizing position with
  | nil => rfl
  | cons parameter rest ih =>
      rw [bindingsFrom, List.map_cons, ih, List.length_cons, List.range'_succ, List.map_cons,
        List.zip_cons_cons]

-- The statement of a find, in terms of the properties that the predicates compare.
structure Filters (schema : Schema) (root : String) (query : Query) (found : List OwnedProperty) :
    Prop where
  text_eq : ∃ table unfiltered, schema.tableName? root = some table ∧
    Statement.find schema root .empty = .ok unfiltered ∧
    query.text = unfiltered.text ++ " WHERE " ++
      " AND ".intercalate (found.map (OwnedProperty.condition table))
  references_nodup : (found.map OwnedProperty.reference).Nodup
  bindings_eq : query.bindings.map (fun binding => (binding.position, binding.parameter.name)) =
    (List.range found.length).zip (found.map fun property => property.property.name)

-- What the arguments of a find are bound to: each to the reference that stands in the condition of its
-- property. Rows are compared with what is found under the reference.
structure Reaches (query : Query) (found : List OwnedProperty) (arguments : List Value)
    (bound : List (String × Value)) : Prop where
  bind_eq : query.bind arguments = .ok bound
  bound_eq : bound = (found.map fun property => property.property.name).zip arguments
  references_eq : (supplied bound).map Prod.fst = found.map OwnedProperty.reference
  lookup_eq : found.map (fun property => (supplied bound).lookup property.reference) =
    arguments.map some
  argument_eq : ∀ parameter, Selection.argument bound parameter =
    ((supplied bound).lookup parameter.reference).getD .null

-- A wrong number of arguments is refused before any table or row is looked at.
structure Refuses (query : Query) (method : String) (arguments : List Value) : Prop where
  bind_eq : query.bind arguments =
    .error (.wrongArgumentCount method query.arity arguments.length)
  call_eq : ∀ {α : Type} (shape : Shape) (database : Database) (mapper : Row → Option α),
    query.call shape database mapper arguments =
      ⟨.error (.wrongArgumentCount method query.arity arguments.length), none⟩

namespace Compiled

variable {schema : Schema} {root method : String} {query : Query}

theorem refuses (h : Compiled schema schema root method query) (arguments : List Value)
    (hlength : arguments.length ≠ query.arity) : Refuses query method arguments := by
  have hbind : query.bind arguments =
      .error (.wrongArgumentCount method query.arity arguments.length) := by
    rw [bind, if_neg hlength, h.method_eq]
  exact ⟨hbind, fun shape database mapper => by rw [call, hbind]⟩

theorem names_of_predicates (h : Compiled schema schema root method query)
    (found : List OwnedProperty) (hfound : query.criteria.predicates = found.map .ofProperty) :
    query.parameters.names = found.map fun property => property.property.name := by
  rw [h.names_eq, hfound, List.map_map]
  rfl

theorem references_nodup (h : Compiled schema schema root method query)
    (found : List OwnedProperty) (hfound : query.criteria.predicates = found.map .ofProperty) :
    (found.map OwnedProperty.reference).Nodup := by
  have hnames := h.leaves_nodup
  rw [← h.names_eq, h.names_of_predicates found hfound] at hnames
  rw [map_reference]
  exact hnames.map fun first second he => (String.append_right_inj ":").mp he

theorem reaches (h : Compiled schema schema root method query)
    (hverb : query.criteria.verb ≠ .count) (found : List OwnedProperty)
    (hfound : query.criteria.predicates = found.map .ofProperty) (arguments : List Value)
    (hlength : arguments.length = query.arity) :
    ∃ bound, Reaches query found arguments bound := by
  have hcount : (found.map OwnedProperty.reference).length = arguments.length := by
    rw [hlength, h.arity_eq, hfound, List.length_map, List.length_map]
  have hbind := query.bind_eq arguments (h.find_eq hverb).2 hlength
  rw [h.names_of_predicates found hfound] at hbind
  have hsupplied := supplied_zip (found.map fun property => property.property.name) arguments
  rw [← map_reference] at hsupplied
  refine ⟨_, hbind, rfl, ?_, ?_, argument_eq_supplied _⟩
  · rw [hsupplied, List.map_fst_zip hcount.le]
  · have hlookup := Keyed.map_lookup_zip _ arguments (h.references_nodup found hfound) hcount
    rw [List.map_map] at hlookup
    rw [hsupplied]
    exact hlookup

theorem filters (h : Compiled schema schema root method query)
    (hverb : query.criteria.verb ≠ .count) (found : List OwnedProperty)
    (hfound : query.criteria.predicates = found.map .ofProperty)
    (hvisible : ∀ property ∈ found, schema.property? root property.property.name = some property) :
    Filters schema root query found := by
  obtain ⟨hfind, hbindings⟩ := h.find_eq hverb
  obtain ⟨selection, hselection, hfinds⟩ := Statement.finds_of_find _ _ _ _ hfind
  have hentries := h.entries_eq
  rw [hfound, List.map_map] at hentries
  rw [hentries] at hfinds
  obtain ⟨_, _, _, _, hsome⟩ := (query.criteria.flaw?_eq_none_iff _ _).mp h.rules
  refine ⟨⟨selection.table, _, hfinds.table, Statement.find_empty _ _ _ _ (hselection ▸ hfind), ?_⟩,
    h.references_nodup found hfound, ?_⟩
  · have hne : selection.conditions ≠ [] := by
      intro hnil
      have hnone := hfinds.conditions
      rw [hnil, List.forall₂_nil_right_iff, List.map_eq_nil_iff] at hnone
      exact hsome (by rw [hfound, hnone, List.map_nil])
    have hconditions := map_eq_of_forall₂ (List.forall₂_map_left_iff.mp hfinds.conditions)
      (OwnedProperty.condition selection.table) Condition.text
      fun property hm condition hc => condition_text root selection.table property condition
        (hvisible property hm) hc
    have htext := selection.text_of_conditions hne
    rw [hconditions] at htext
    unfold text
    rw [hselection]
    exact htext
  · rw [hbindings, bindingsFrom_map, List.range_eq_range', hentries, List.length_map, List.map_map]
    rfl

end Compiled

-- Arguments are taken in the order of the predicates, and each is compared with the column of the
-- property that its predicate names.
theorem arguments_reach_columns (schema : Schema) (root method : String) (query : Query)
    (hcompile : compile schema root method = .ok query) :
    query.arity = query.criteria.predicates.length ∧
      (∃ found : List OwnedProperty, query.criteria.predicates = found.map .ofProperty ∧
        (∀ property ∈ found, schema.property? root property.property.name = some property) ∧
        (query.criteria.verb ≠ .count → Filters schema root query found ∧
          ∀ arguments, arguments.length = query.arity →
            ∃ bound, Reaches query found arguments bound)) ∧
      (query.criteria.verb = .count → Counts schema root query ∧
        ∀ arguments : List Value, arguments.length = query.arity → query.bind arguments = .ok []) ∧
      ∀ arguments, arguments.length ≠ query.arity → Refuses query method arguments := by
  have h := (compile_eq_ok_iff _ _ _ _).mp hcompile
  obtain ⟨found, hfound, hcompared⟩ := exists_compared _ _ _ _ _ h
  have hvisible := fun property hm => (hcompared property hm).1
  refine ⟨h.arity_eq, ⟨found, hfound, hvisible, ?_⟩, ?_, h.refuses⟩
  · intro hverb
    exact ⟨h.filters hverb found hfound hvisible, h.reaches hverb found hfound⟩
  · intro hverb
    refine ⟨h.counts hverb, fun arguments hlength => ?_⟩
    rw [bind, if_pos hlength, (h.counts hverb).bindings_eq]
    rfl

-- Names come before identifiers in the name of the method, and so in the arguments.
def findByNameAndId : Query where
  method := "findByNameAndId"
  root := "Owner"
  criteria := ⟨.find, none, [⟨["name"], .scalar .text, "Owner"⟩, ⟨["id"], .scalar .integer, "Owner"⟩],
    [.and]⟩
  parameters := ⟨[⟨"name", .scalar .text⟩, ⟨"id", .scalar .integer⟩]⟩
  statement := .select {
    outputs := [⟨⟨"owner", "id"⟩, "id"⟩, ⟨⟨"owner", "name"⟩, "name"⟩, ⟨⟨"pet", "id"⟩, "pet_id"⟩]
    table := "owner"
    joins := [⟨"pet", "pet", ⟨"pet", "owner"⟩, ⟨"owner", "id"⟩⟩]
    conditions := [⟨⟨"owner", "name"⟩, ⟨"name", .scalar .text⟩⟩,
      ⟨⟨"owner", "id"⟩, ⟨"id", .scalar .integer⟩⟩] }
  bindings := [⟨0, ⟨"name", .scalar .text⟩⟩, ⟨1, ⟨"id", .scalar .integer⟩⟩]

theorem compile_findByNameAndId :
    compile owners "Owner" "findByNameAndId" = .ok findByNameAndId := by
  decide +kernel

theorem arguments_reach_columns_findByNameAndId :
    (∃ found bound, Filters owners "Owner" findByNameAndId found ∧
      Reaches findByNameAndId found [.text "Ann", .integer 1] bound) ∧
      Refuses findByNameAndId "findByNameAndId" [.text "Ann"] := by
  obtain ⟨_, ⟨found, _, _, hfind⟩, _, hrefuses⟩ := arguments_reach_columns owners "Owner"
    "findByNameAndId" findByNameAndId compile_findByNameAndId
  obtain ⟨hfilters, hreaches⟩ := hfind (by decide)
  obtain ⟨bound, hbound⟩ := hreaches [.text "Ann", .integer 1] rfl
  exact ⟨⟨found, bound, hfilters, hbound⟩, hrefuses [.text "Ann"] (by decide)⟩

end Query

end Finder
