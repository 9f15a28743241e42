import Finder.Proofs.Query.Answers

namespace Finder

-- A statement that gives rows has found the table of its root.
theorem Selection.exists_table_of_rows (selection : Selection) (database : Database)
    (bound : List (String × Value)) (rows : List Row) (h : selection.rows database bound = .ok rows) :
    ∃ table, database.table? selection.table = some table := by
  unfold Selection.rows at h
  split at h
  · cases h
  · obtain ⟨table, htable, _⟩ := (except_bind_eq_ok _ _ _).mp h
    unfold tableOf at htable
    split at htable
    · next found hfound => exact ⟨found, hfound⟩
    · cases htable

namespace Query

-- The rows that a statement gives for the arguments of a call.
def Gives (query : Query) (database : Database) (arguments : List Value) (rows : List Row) : Prop :=
  ∃ selection bound, query.statement = .select selection ∧ query.bind arguments = .ok bound ∧
    selection.rows database bound = .ok rows

-- Whether rows are handed on, and not only asked for or counted.
def HandsOn (query : Query) : Prop :=
  query.criteria.verb ≠ .count ∧ query.criteria.verb ≠ .exists

-- What calls of a query have to come to where its predicates select `rows`.
structure Outcomes (schema : Schema) (root : String) (query : Query) (database : Database)
    (arguments : List Value) (rows : List Row) : Prop where
  collection : query.HandsOn → ∀ {α : Type} (mapper : Row → Option α) (mapped : List α),
    rows.map mapper = mapped.map some →
      (query.call .collection database mapper arguments).result = .ok (.collection mapped)
  single_none : query.HandsOn → rows = [] → ∀ {α : Type} (mapper : Row → Option α),
    (query.call .single database mapper arguments).result = .ok (.single none)
  single_some : query.HandsOn → ∀ {α : Type} (mapper : Row → Option α) (row : Row) (mapped : α),
    rows = [row] → mapper row = some mapped →
      (query.call .single database mapper arguments).result = .ok (.single (some mapped))
  single_many : query.HandsOn → 1 < rows.length → ∀ {α : Type} (mapper : Row → Option α),
    (∀ row ∈ rows, mapper row ≠ none) →
      (query.call .single database mapper arguments).result =
        .error (.manyRows query.method rows.length)
  -- However many rows there are.
  unmapped : query.HandsOn → ∀ {α : Type} (mapper : Row → Option α) (shape : Shape),
    (∃ row ∈ rows, mapper row = none) →
      (query.call shape database mapper arguments).result = .error (.failed .unmapped)
  -- Whatever the mapper makes of the rows.
  presence : query.criteria.verb = .exists → ∀ {α : Type} (mapper : Row → Option α) (shape : Shape),
    (query.call shape database mapper arguments).result = .ok (.exists (rows ≠ []))
  -- Whatever the arguments are.
  count : query.criteria.verb = .count → ∃ name table, schema.tableName? root = some name ∧
    database.table? name = some table ∧ ∀ {α : Type} (mapper : Row → Option α) (shape : Shape)
      (given : List Value), given.length = query.arity →
        (query.call shape database mapper given).result = .ok (.count table.rows.length)

theorem mapRows_eq_ok_iff {α : Type} (mapper : Row → Option α) (rows : List Row) (mapped : List α) :
    mapRows mapper rows = .ok mapped ↔ rows.map mapper = mapped.map some := by
  induction rows generalizing mapped with
  | nil => cases mapped <;> simp [mapRows]
  | cons row rest ih =>
      simp only [mapRows, List.map_cons]
      cases hrow : mapper row with
      | none => cases mapped <;> simp
      | some value =>
          cases mapped with
          | nil => cases mapRows mapper rest <;> simp [Except.map]
          | cons first later =>
              rw [List.map_cons, List.cons.injEq, Option.some.injEq, ← ih]
              cases mapRows mapper rest <;> simp [Except.map]

theorem mapRows_of_unmapped {α : Type} (mapper : Row → Option α) (rows : List Row)
    (h : ∃ row ∈ rows, mapper row = none) : mapRows mapper rows = .error .unmapped := by
  induction rows with
  | nil => simp at h
  | cons row rest ih =>
      cases hrow : mapper row with
      | none => simp only [mapRows, hrow]
      | some value =>
          have hrest : ∃ other ∈ rest, mapper other = none := by simpa [hrow] using h
          simp only [mapRows, hrow, ih hrest, Except.map]

theorem exists_mapped {α : Type} (mapper : Row → Option α) (rows : List Row)
    (h : ∀ row ∈ rows, mapper row ≠ none) : ∃ mapped : List α, rows.map mapper = mapped.map some := by
  induction rows with
  | nil => exact ⟨[], rfl⟩
  | cons row rest ih =>
      rw [List.forall_mem_cons] at h
      obtain ⟨value, hvalue⟩ := Option.ne_none_iff_exists'.mp h.1
      obtain ⟨later, hlater⟩ := ih h.2
      exact ⟨value :: later, by rw [List.map_cons, List.map_cons, hvalue, hlater]⟩

-- Rows that were mapped are an outcome, or too many for one.
theorem shaped_cases {α : Type} (query : Query) (shape : Shape) (mapped : List α) :
    (∃ outcome, query.shaped shape mapped = .ok outcome) ∨
      shape = .single ∧ 1 < mapped.length ∧
        query.shaped shape mapped = .error (.manyRows query.method mapped.length) := by
  cases shape with
  | collection => exact .inl ⟨_, rfl⟩
  | single =>
      cases mapped with
      | nil => exact .inl ⟨_, rfl⟩
      | cons first rest =>
          cases rest with
          | nil => exact .inl ⟨_, rfl⟩
          | cons second rest => exact .inr ⟨rfl, by simp, rfl⟩

theorem shaped_result {α : Type} (query : Query) (shape : Shape) (mapped : List α) :
    (∃ outcome, query.shaped shape mapped = .ok outcome) ∨
      ∃ count, query.shaped shape mapped = .error (.manyRows query.method count) := by
  rcases query.shaped_cases shape mapped with houtcome | ⟨_, _, hmany⟩
  · exact .inl houtcome
  · exact .inr ⟨_, hmany⟩

-- What a call comes to, told from the rows of its statement.
theorem Gives.result_eq {query : Query} {database : Database} {arguments : List Value}
    {rows : List Row} (h : query.Gives database arguments rows) {α : Type} (mapper : Row → Option α)
    (shape : Shape) :
    (query.call shape database mapper arguments).result =
      if query.criteria.verb = .exists then .ok (.exists !rows.isEmpty)
      else
        match mapRows mapper rows with
        | .error failure => .error (.failed failure)
        | .ok mapped => query.shaped shape mapped := by
  obtain ⟨selection, bound, hstatement, hbound, hrows⟩ := h
  simp only [call, hbound, hstatement, hrows]
  split
  · rfl
  · cases mapRows mapper rows <;> rfl

theorem Gives.result_of_mapped {query : Query} {database : Database} {arguments : List Value}
    {rows : List Row} (h : query.Gives database arguments rows) (hverb : query.HandsOn) {α : Type}
    (mapper : Row → Option α) (shape : Shape) (mapped : List α)
    (hmapped : rows.map mapper = mapped.map some) :
    (query.call shape database mapper arguments).result = query.shaped shape mapped := by
  rw [h.result_eq, if_neg hverb.2, (mapRows_eq_ok_iff _ _ _).mpr hmapped]

-- The statement of one query is that of all with its predicates, but for those that count.
theorem Gives.of_predicates {schema : Schema} {root method method' : String} {query other : Query}
    {database : Database} {arguments : List Value} {rows : List Row}
    (h : query.Gives database arguments rows)
    (hcompiled : Compiled schema schema root method query)
    (hcompiled' : Compiled schema schema root method' other)
    (hpredicates : other.criteria.predicates = query.criteria.predicates)
    (hverb : query.criteria.verb ≠ .count) (hverb' : other.criteria.verb ≠ .count) :
    other.Gives database arguments rows := by
  obtain ⟨selection, bound, hstatement, hbound, hrows⟩ := h
  obtain ⟨hsame, hbindings⟩ :=
    hcompiled.find_eq_of_predicates hcompiled' hpredicates hverb hverb'
  have harity : other.arity = query.arity := by
    rw [hcompiled.arity_eq, hcompiled'.arity_eq, hpredicates]
  refine ⟨selection, bound, hsame.trans hstatement, ?_, hrows⟩
  unfold bind at hbound ⊢
  rw [harity, hbindings]
  split at hbound
  · next hlength => rwa [if_pos hlength]
  · cases hbound

-- A find that gives rows has found the table that a count reads.
theorem Gives.exists_table {schema : Schema} {root method : String} {query : Query}
    {database : Database} {arguments : List Value} {rows : List Row}
    (h : query.Gives database arguments rows) (hcompiled : Compiled schema schema root method query)
    (hverb : query.criteria.verb ≠ .count) :
    ∃ name table, schema.tableName? root = some name ∧ database.table? name = some table := by
  obtain ⟨selection, bound, hstatement, _, hrows⟩ := h
  obtain ⟨hfind, _⟩ := hcompiled.find_eq hverb
  obtain ⟨name, _, _, _, hname, _, _, _, hmade⟩ := (Statement.find_eq_ok_iff _ _ _ _).mp hfind
  obtain rfl := Statement.select.inj (hstatement.symm.trans hmade)
  obtain ⟨table, htable⟩ := Selection.exists_table_of_rows _ _ _ _ hrows
  exact ⟨name, table, hname, htable⟩

theorem count_result {schema : Schema} {root : String} {query : Query} {database : Database}
    {name : String} {table : Table} (h : Counts schema root query)
    (hname : schema.tableName? root = some name) (htable : database.table? name = some table)
    {α : Type} (mapper : Row → Option α) (shape : Shape) (given : List Value)
    (hlength : given.length = query.arity) :
    (query.call shape database mapper given).result = .ok (.count table.rows.length) := by
  obtain ⟨⟨counted, hcounted, hstatement, _⟩, hbindings⟩ := h
  obtain rfl := Option.some.inj (hcounted.symm.trans hname)
  have hbound : query.bind given = .ok [] := by
    rw [bind, if_pos hlength, hbindings, List.filterMap_nil]
  have hsize : database.size counted = .ok table.rows.length := by
    rw [Database.size, Selection.tableOf, htable]
    rfl
  simp only [call, hbound, hstatement, hsize]

-- All queries with the same predicates tell of the same rows, whatever their verbs and the shapes of
-- their results: those that a find gives.
theorem outcomes_of_find (schema : Schema) (root method method' : String) (find query : Query)
    (database : Database) (arguments : List Value) (rows : List Row)
    (hfind : compile schema root method = .ok find) (hverb : find.criteria.verb ≠ .count)
    (hquery : compile schema root method' = .ok query)
    (hpredicates : query.criteria.predicates = find.criteria.predicates)
    (hgives : find.Gives database arguments rows) :
    Outcomes schema root query database arguments rows := by
  have hcompiled := (compile_eq_ok_iff _ _ _ _).mp hfind
  have hcompiled' := (compile_eq_ok_iff _ _ _ _).mp hquery
  have hsame (hnot : query.criteria.verb ≠ .count) : query.Gives database arguments rows :=
    hgives.of_predicates hcompiled hcompiled' hpredicates hverb hnot
  exact {
    collection := by
      intro hhands _ mapper mapped hmapped
      rw [(hsame hhands.1).result_of_mapped hhands mapper _ mapped hmapped]
      rfl
    single_none := by
      rintro hhands rfl _ mapper
      rw [(hsame hhands.1).result_of_mapped hhands mapper _ [] rfl]
      rfl
    single_some := by
      rintro hhands _ mapper row mapped rfl hmapped
      rw [(hsame hhands.1).result_of_mapped hhands mapper _ [mapped] (by simpa using hmapped)]
      rfl
    single_many := by
      intro hhands hmany _ mapper hall
      obtain ⟨mapped, hmapped⟩ := exists_mapped mapper rows hall
      have hlength : mapped.length = rows.length := by
        simpa using (congrArg List.length hmapped).symm
      rw [(hsame hhands.1).result_of_mapped hhands mapper _ mapped hmapped, ← hlength]
      match mapped with
      | [] | [_] =>
          simp only [List.length_nil, List.length_singleton] at hlength
          omega
      | _ :: _ :: _ => rfl
    unmapped := by
      intro hhands _ mapper shape hnone
      rw [(hsame hhands.1).result_eq, if_neg hhands.2, mapRows_of_unmapped mapper rows hnone]
    presence := by
      intro hexists _ mapper shape
      rw [(hsame (by simp [hexists])).result_eq, if_pos hexists]
      cases rows <;> rfl
    count := by
      intro hcount
      obtain ⟨name, table, hname, htable⟩ := hgives.exists_table hcompiled hverb
      exact ⟨name, table, hname, htable, fun mapper shape given hlength =>
        count_result (hcompiled'.counts hcount) hname htable mapper shape given hlength⟩ }

def countOwners : Query :=
  { findOwners with
    method := "countByName"
    criteria := { findOwners.criteria with verb := .count }
    statement := .count "owner"
    bindings := [] }

theorem compile_countOwners : compile owners "Owner" "countByName" = .ok countOwners := by
  decide +kernel

-- One row for each pet of an Ann, and one for the Ann without pets.
def annRows : List Row :=
  [[("id", .integer 1), ("name", .text "Ann"), ("pet_id", .integer 7)],
    [("id", .integer 1), ("name", .text "Ann"), ("pet_id", .integer 9)],
    [("id", .integer 3), ("name", .text "Ann"), ("pet_id", .null)]]

theorem findOwners_gives : findOwners.Gives village [.text "Ann"] annRows :=
  ⟨ownersNamed, [("name", .text "Ann")], rfl, by decide +kernel, by decide +kernel⟩

theorem outcomes_of_find_annRows :
    findOwners.criteria.verb ≠ .count ∧
      countOwners.criteria.predicates = findOwners.criteria.predicates ∧
      findOwners.Gives village [.text "Ann"] annRows ∧
      (findOwners.call .single village some [.text "Ann"]).result =
        .error (.manyRows "findByName" 3) ∧
      (countOwners.call .single village some [.text "Bo"]).result = .ok (.count 3) := by
  have hfind := outcomes_of_find owners "Owner" "findByName" "findByName" findOwners findOwners
    village [.text "Ann"] annRows compile_findOwners (by decide) compile_findOwners rfl
    findOwners_gives
  have hcount := outcomes_of_find owners "Owner" "findByName" "countByName" findOwners countOwners
    village [.text "Ann"] annRows compile_findOwners (by decide) compile_countOwners rfl
    findOwners_gives
  obtain ⟨name, table, hname, htable, hcounts⟩ := hcount.count rfl
  have howner : owners.tableName? "Owner" = some "owner" := by decide +kernel
  obtain rfl := Option.some.inj (hname.symm.trans howner)
  have hrows : table.rows.length = 3 := by
    rw [← Option.some.inj htable]
    rfl
  refine ⟨by decide, rfl, findOwners_gives, ?_, ?_⟩
  · exact hfind.single_many ⟨by decide, by decide⟩ (by decide) some (by simp)
  · rw [hcounts some .single [.text "Bo"] rfl, hrows]

end Query

end Finder
