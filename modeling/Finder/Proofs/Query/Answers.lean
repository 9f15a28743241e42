import Finder.Proofs.Query.Arguments
import Finder.Proofs.Real.Binary64
import Finder.Proofs.Statement.Results

namespace Finder

-- Integers and reals are both numbers.
inductive Kind where
  | number
  | text
  | blob
  deriving DecidableEq, Repr

def Value.kind? : Value → Option Kind
  | .null => none
  | .integer _ | .real _ => some .number
  | .text _ => some .text
  | .blob _ => some .blob

-- Null equals nothing, and nothing is converted to be equal to a value of another kind.
theorem Value.kind?_of_equals (first second : Value) (h : first.equals second) :
    ∃ kind, first.kind? = some kind ∧ second.kind? = some kind := by
  cases first <;> cases second <;> simp_all [equals, kind?]

-- What a value stands for where it is compared. Null stands for nothing.
inductive Meaning where
  | number (amount : Amount)
  | text (value : String)
  | blob (bytes : List UInt8)

def Value.meaning? : Value → Option Meaning
  | .null => none
  | .integer value => some (.number (.finite value))
  | .real value => some (.number value.amount)
  | .text value => some (.text value)
  | .blob bytes => some (.blob bytes)

def Value.Reduced : Value → Prop
  | .real value => value.Reduced
  | _ => True

-- Values are equal where they stand for the same. Numbers stand for what they amount to, be they
-- integers or reals, texts for their characters and blobs for their bytes.
theorem Value.equals_iff {first second : Value} (hfirst : first.Reduced) (hsecond : second.Reduced) :
    first.equals second ↔
      ∃ meaning, first.meaning? = some meaning ∧ second.meaning? = some meaning := by
  cases first with
  | null => simp [equals, meaning?]
  | integer n =>
      cases second with
      | integer k => simpa [equals, meaning?] using eq_comm
      | real y => simp [equals, meaning?, Binary64.equalsInt_iff]
      | _ => simp [equals, meaning?]
  | real x =>
      cases second with
      | integer k => simpa [equals, meaning?, Binary64.equalsInt_iff] using eq_comm
      | real y => simpa [equals, meaning?, Binary64.same_iff hfirst hsecond] using eq_comm
      | _ => simp [equals, meaning?]
  | text a =>
      cases second with
      | text b => simpa [equals, meaning?] using eq_comm
      | _ => simp [equals, meaning?]
  | blob a =>
      cases second with
      | blob b => simpa [equals, meaning?] using eq_comm
      | _ => simp [equals, meaning?]

-- The rows of the root that have an argument for value where each predicate compares.
def Schema.matching (schema : Schema) (database : Database) (root : String)
    (predicates : List Predicate) (arguments : List Value) : List (List Value) :=
  let table := schema.stored database root
  table.rows.filter fun row => (predicates.zip arguments).all fun (predicate, argument) =>
    (schema.property? root predicate.leaf).any fun found =>
      (table.value row found.property.columnName).equals argument

namespace Query

-- The rows that a find has to give: all that match, each with every choice of the rows that point to
-- it, and none of them lost for want of such rows.
structure Answers (schema : Schema) (database : Database) (root : String)
    (predicates : List Predicate) (arguments : List Value) (rows : List Row) : Prop where
  rows_perm : rows.Perm ((schema.matching database root predicates arguments).flatMap
    (schema.results database root))
  length_rows : rows.length = ((schema.matching database root predicates arguments).map fun row =>
    ((schema.targets root).map fun target =>
      max 1 (schema.pointing database root target row).length).prod).sum
  none_lost : ∀ row ∈ schema.matching database root predicates arguments, ∃ result ∈ rows,
    ∀ found ∈ schema.visible root, ∀ kind, found.property.type = .scalar kind →
      (found.property.columnName,
        (schema.stored database root).value row found.property.columnName) ∈ result

theorem answers_of_eq (schema : Schema) (database : Database) (root : String)
    (predicates : List Predicate) (arguments : List Value) :
    Answers schema database root predicates arguments
      ((schema.matching database root predicates arguments).flatMap
        (schema.results database root)) where
  rows_perm := .rfl
  length_rows := by simp only [List.length_flatMap, schema.length_results]
  none_lost := by
    intro row hr
    obtain ⟨result, hm⟩ := List.exists_mem_of_ne_nil _ (schema.results_ne_nil database root row)
    exact ⟨result, List.mem_flatMap.mpr ⟨row, hr, hm⟩,
      schema.mem_of_mem_results database root row result hm⟩

-- The parameters of a query are told apart by their names, so each of them gets its own argument.
theorem argument_bound (predicates : List Predicate) (arguments : List Value)
    (hdiffer : (predicates.map Predicate.leaf).Nodup)
    (hlength : predicates.length = arguments.length) :
    (predicates.map Parameters.ofPredicate).map
        (Selection.argument ((predicates.map Predicate.leaf).zip arguments)) = arguments := by
  have hlookup := Keyed.map_lookup_zip _ arguments hdiffer (by simpa using hlength)
  have hvalues := congrArg (List.map fun value : Option Value => value.getD .null) hlookup
  simpa [Function.comp_def, Selection.argument, Parameters.ofPredicate] using hvalues

-- A row is kept by a statement when it matches the predicates that its parameters are made of.
theorem keeps_eq_matching (schema : Schema) (root : String) (predicates : List Predicate)
    (selection : Selection) (database : Database) (arguments : List Value)
    (hfinds : Statement.Finds schema root (predicates.map Parameters.ofPredicate) selection)
    (hdiffer : (predicates.map Predicate.leaf).Nodup)
    (hlength : predicates.length = arguments.length) :
    (schema.stored database root).rows.filter
        (selection.keeps database ((predicates.map Predicate.leaf).zip arguments)) =
      schema.matching database root predicates arguments := by
  have hbound := argument_bound predicates arguments hdiffer hlength
  rw [List.map_map] at hbound
  refine List.filter_congr fun row _ => ?_
  rw [hfinds.keeps_eq, List.all_map]
  conv_rhs => rw [← hbound, ← List.map_prod_left_eq_zip, List.all_map]
  rfl

-- Whatever the tables hold, a compiled find gives the rows that match its predicates.
theorem rows_of_compiled (schema : Schema) (root method : String) (query : Query)
    (database : Database) (arguments : List Value)
    (hcompile : compile schema root method = .ok query) (hverb : query.criteria.verb ≠ .count)
    (hserved : ∀ selection, query.statement = .select selection → selection.Served database)
    (harity : arguments.length = query.arity) :
    ∃ selection bound rows, query.statement = .select selection ∧
      query.bind arguments = .ok bound ∧ selection.rows database bound = .ok rows ∧
      Answers schema database root query.criteria.predicates arguments rows ∧
      ∀ first second : Value, first.equals second →
        ∃ kind, first.kind? = some kind ∧ second.kind? = some kind := by
  have hcompiled := (compile_eq_ok_iff _ _ _ _).mp hcompile
  obtain ⟨hfind, hbindings⟩ := hcompiled.find_eq hverb
  obtain ⟨selection, hselection, hfinds⟩ := Statement.finds_of_find _ _ _ _ hfind
  rw [hcompiled.entries_eq] at hfinds
  obtain ⟨_, _, _, _, hsome⟩ := (query.criteria.flaw?_eq_none_iff _ _).mp hcompiled.rules
  have hlength : query.criteria.predicates.length = arguments.length := by
    rw [harity, hcompiled.arity_eq]
  have hrows := hfinds.rows_eq (hserved selection hselection)
    (hfinds.outputs_ne (by simpa using hsome)) (query.parameters.names.zip arguments)
  have hkeeps := keeps_eq_matching schema root _ selection database arguments hfinds
    hcompiled.leaves_nodup hlength
  rw [← hcompiled.names_eq] at hkeeps
  rw [hkeeps] at hrows
  exact ⟨selection, _, _, hselection, bind_eq query arguments hbindings harity, hrows,
    answers_of_eq schema database root query.criteria.predicates arguments, Value.kind?_of_equals⟩

def ownersNamed : Selection where
  outputs := [⟨⟨"owner", "id"⟩, "id"⟩, ⟨⟨"owner", "name"⟩, "name"⟩, ⟨⟨"pet", "id"⟩, "pet_id"⟩]
  table := "owner"
  joins := [⟨"pet", "pet", ⟨"pet", "owner"⟩, ⟨"owner", "id"⟩⟩]
  conditions := [⟨⟨"owner", "name"⟩, ⟨"name", .scalar .text⟩⟩]

def findOwners : Query where
  method := "findByName"
  root := "Owner"
  criteria := ⟨.find, none, [⟨["name"], .scalar .text, "Owner"⟩], []⟩
  parameters := ⟨[⟨"name", .scalar .text⟩]⟩
  statement := .select ownersNamed
  bindings := [⟨0, ⟨"name", .scalar .text⟩⟩]

-- The first Ann has two pets, the second has none, and one pet has no owner.
def village : Database where
  tables := [
    ⟨"owner", ["id", "name"], [[.integer 1, .text "Ann"], [.integer 2, .text "Bo"],
      [.integer 3, .text "Ann"]]⟩,
    ⟨"pet", ["id", "owner"], [[.integer 7, .integer 1], [.integer 8, .null],
      [.integer 9, .integer 1]]⟩]

theorem compile_findOwners : compile owners "Owner" "findByName" = .ok findOwners := by
  decide +kernel

theorem ownersNamed_served : ownersNamed.Served village where
  tables := by decide +kernel
  columns := by
    unfold Source.Has
    decide +kernel
  distinct := by decide +kernel

theorem rows_of_compiled_findOwners : ∃ selection bound rows,
    findOwners.statement = .select selection ∧ findOwners.bind [.text "Ann"] = .ok bound ∧
      selection.rows village bound = .ok rows ∧ rows.length = 3 := by
  obtain ⟨selection, bound, rows, hselection, hbound, hrows, hanswers, _⟩ :=
    rows_of_compiled owners "Owner" "findByName" findOwners village [.text "Ann"]
      compile_findOwners (by decide) (by
        intro selection h
        obtain rfl := Statement.select.inj h
        exact ownersNamed_served) rfl
  refine ⟨selection, bound, rows, hselection, hbound, hrows, ?_⟩
  rw [hanswers.length_rows]
  decide +kernel

end Query

end Finder
