import Finder.Proofs.Lists
import Finder.Proofs.Statement.Places
import Mathlib.Algebra.BigOperators.Group.List.Basic

namespace Finder

-- All ways to take one of each.
def choices {α : Type} : List (List α) → List (List α)
  | [] => [[]]
  | options :: rest => options.flatMap fun option => (choices rest).map (option :: ·)

theorem length_choices {α : Type} (lists : List (List α)) :
    (choices lists).length = (lists.map List.length).prod := by
  induction lists with
  | nil => rfl
  | cons options rest ih =>
      simp only [choices, List.length_flatMap, List.length_map, ih, List.map_const',
        List.sum_replicate_nat, List.map_cons, List.prod_cons]

theorem mem_choices_iff {α : Type} (lists : List (List α)) (chosen : List α) :
    chosen ∈ choices lists ↔ List.Forall₂ (· ∈ ·) chosen lists := by
  induction lists generalizing chosen with
  | nil => simp [choices]
  | cons options rest ih =>
      simp only [choices, List.mem_flatMap, List.mem_map, ih, List.forall₂_cons_right_iff]
      constructor
      · rintro ⟨option, ho, later, hl, rfl⟩
        exact ⟨option, later, ho, hl, rfl⟩
      · rintro ⟨option, later, ho, hl, rfl⟩
        exact ⟨option, ho, later, hl, rfl⟩

namespace LocatedJoin

-- A step of a join whose two columns are read off the new row and off the combination before it.
theorem extend_eq (join : LocatedJoin) (combination : Combination) (column : String) (value : Value)
    (hreference : ∀ row, cell (combination ++ [row]) join.reference = join.table.value row column)
    (htarget : ∀ row, cell (combination ++ [row]) join.target = value) :
    join.extend combination =
      (join.table.matchingOrNull column value).map fun row => combination ++ [row] := by
  have hmatching : (join.table.rows.map fun row => combination ++ [row]).filter join.meets =
      (join.table.matching column value).map fun row => combination ++ [row] := by
    rw [List.filter_map, Table.matching]
    congr 2
    funext row
    simp only [Function.comp_apply, meets, hreference, htarget]
  simp only [extend, hmatching, List.isEmpty_iff, List.map_eq_nil_iff, Table.matchingOrNull]
  split <;> rfl

end LocatedJoin

namespace Selection

-- All columns that a statement names.
def refs (selection : Selection) : List ColumnRef :=
  selection.outputs.map Output.source ++
    selection.joins.flatMap (fun join => [join.reference, join.target]) ++
      selection.conditions.map Condition.column

def joinSource (database : Database) (join : Join) : Source :=
  ⟨join.name, database.stored join.table⟩

def storedSources (selection : Selection) (database : Database) : List Source :=
  ⟨selection.table, database.stored selection.table⟩ :: selection.joins.map (joinSource database)

-- A database serves a statement when it has all tables and columns that the statement names, and no
-- two sources of the statement have one name.
structure Served (selection : Selection) (database : Database) : Prop where
  tables : ∀ name ∈ selection.table :: selection.joins.map Join.table,
    (database.table? name).isSome
  columns : ∀ ref ∈ selection.refs, Source.Has (selection.storedSources database) ref
  distinct : (selection.table :: selection.joins.map Join.name).Nodup

-- Each join compares a column of its own with one of the root, and conditions are on the root.
structure Starlike (selection : Selection) : Prop where
  joins : ∀ join ∈ selection.joins,
    join.reference.table = join.name ∧ join.target.table = selection.table
  conditions : ∀ condition ∈ selection.conditions, condition.column.table = selection.table

variable {selection : Selection} {database : Database}

theorem names_storedSources (selection : Selection) (database : Database) :
    (selection.storedSources database).map Source.name =
      selection.table :: selection.joins.map Join.name := by
  simp [storedSources, joinSource, Function.comp_def]

theorem Served.names_nodup (h : selection.Served database) :
    ((selection.storedSources database).map Source.name).Nodup := by
  rw [names_storedSources]
  exact h.distinct

theorem tableOf_eq_stored (database : Database) (name : String)
    (h : (database.table? name).isSome) : tableOf database name = .ok (database.stored name) := by
  obtain ⟨table, ht⟩ := Option.isSome_iff_exists.mp h
  simp [tableOf, Database.stored, ht]

theorem Served.tableOf_eq (h : selection.Served database) (name : String)
    (hm : name ∈ selection.table :: selection.joins.map Join.table) :
    tableOf database name = .ok (database.stored name) :=
  tableOf_eq_stored database name (h.tables name hm)

theorem joinSources_eq (database : Database) (joins : List Join)
    (h : ∀ join ∈ joins, tableOf database join.table = .ok (database.stored join.table)) :
    joinSources database joins = .ok (joins.map (joinSource database)) := by
  induction joins with
  | nil => rfl
  | cons join rest ih =>
      have hfirst := h join List.mem_cons_self
      have hrest := ih fun other ho => h other (List.mem_cons_of_mem _ ho)
      simp only [joinSources, hfirst, hrest]
      rfl

theorem sources_eq_stored (selection : Selection) (database : Database)
    (h : ∀ name ∈ selection.table :: selection.joins.map Join.table,
      (database.table? name).isSome) :
    selection.sources database = .ok (selection.storedSources database) := by
  have hroot := tableOf_eq_stored database selection.table (h _ List.mem_cons_self)
  have hjoins := joinSources_eq database selection.joins fun join hm =>
    tableOf_eq_stored database join.table (h _ (List.mem_cons_of_mem _ (List.mem_map_of_mem hm)))
  simp only [sources, hroot, hjoins]
  rfl

theorem Served.sources_eq (h : selection.Served database) :
    selection.sources database = .ok (selection.storedSources database) :=
  sources_eq_stored selection database h.tables

theorem getElem?_storedSources (selection : Selection) (database : Database) (i : Nat) :
    (selection.storedSources database)[i + 1]? = selection.joins[i]?.map (joinSource database) := by
  simp [storedSources]

-- Where a served statement names a column of a source, its value is that of the row of the source.
theorem Served.cell_eq (h : selection.Served database) (ref : ColumnRef) (hm : ref ∈ selection.refs)
    (i : Nat) (source : Source) (hs : (selection.storedSources database)[i]? = some source)
    (hname : source.name = ref.table) :
    (Source.place (selection.storedSources database) ref).source = i ∧
      ∀ combination row, combination[i]? = some row →
        cell combination (Source.place (selection.storedSources database) ref) =
          source.table.value row ref.column := by
  obtain ⟨other, ho, hother, hcolumn⟩ := h.columns ref hm
  obtain rfl : other = source := by
    have := List.inj_on_of_nodup_map h.names_nodup ho (List.mem_of_getElem? hs)
    exact this (hother.trans hname.symm)
  exact ⟨(Source.place_of_getElem? _ h.names_nodup ref i other hs hname hcolumn).1,
    Source.cell_place _ h.names_nodup ref i other hs hname hcolumn⟩

def locatedJoin (selection : Selection) (database : Database) (join : Join) : LocatedJoin where
  table := database.stored join.table
  reference := Source.place (selection.storedSources database) join.reference
  target := Source.place (selection.storedSources database) join.target

-- The rows that a join puts beside a row of the root.
def partners (selection : Selection) (database : Database) (row : List Value) (join : Join) :
    List (List Value) :=
  (database.stored join.table).matchingOrNull join.reference.column
    ((database.stored selection.table).value row join.target.column)

theorem reference_mem_refs (join : Join) (h : join ∈ selection.joins) :
    join.reference ∈ selection.refs := by
  simp only [refs, List.mem_append, List.mem_flatMap]
  exact .inl (.inr ⟨join, h, by simp⟩)

theorem target_mem_refs (join : Join) (h : join ∈ selection.joins) :
    join.target ∈ selection.refs := by
  simp only [refs, List.mem_append, List.mem_flatMap]
  exact .inl (.inr ⟨join, h, by simp⟩)

-- The columns of the join behind `before`: its own is at its own position, the other at the root.
theorem Served.reference_eq (h : selection.Served database) (hstar : selection.Starlike)
    (before rest : List Join) (join : Join) (hj : selection.joins = before ++ join :: rest) :
    (selection.locatedJoin database join).reference.source = before.length + 1 ∧
      ∀ combination row, combination[before.length + 1]? = some row →
        cell combination (selection.locatedJoin database join).reference =
          (database.stored join.table).value row join.reference.column := by
  have hm : join ∈ selection.joins := by simp [hj]
  have hs : (selection.storedSources database)[before.length + 1]? =
      some (joinSource database join) := by
    simp [getElem?_storedSources, hj]
  exact h.cell_eq join.reference (reference_mem_refs join hm) _ _ hs (hstar.joins join hm).1.symm

theorem Served.root_cell_eq (h : selection.Served database) (ref : ColumnRef)
    (hm : ref ∈ selection.refs) (htable : ref.table = selection.table) :
    (Source.place (selection.storedSources database) ref).source = 0 ∧
      ∀ row later, cell (row :: later) (Source.place (selection.storedSources database) ref) =
        (database.stored selection.table).value row ref.column := by
  obtain ⟨hsource, hcell⟩ := h.cell_eq ref hm 0 _ rfl htable.symm
  exact ⟨hsource, fun row later => hcell (row :: later) row rfl⟩

theorem Served.locateJoins_eq (h : selection.Served database) (hstar : selection.Starlike)
    (before rest : List Join) (hj : selection.joins = before ++ rest) :
    locateJoins (selection.storedSources database) database (before.length + 1) rest =
      .ok (rest.map (selection.locatedJoin database)) := by
  induction rest generalizing before with
  | nil => rfl
  | cons join rest ih =>
      have hm : join ∈ selection.joins := by simp [hj]
      have htable := h.tableOf_eq join.table (List.mem_cons_of_mem _ (List.mem_map_of_mem hm))
      have hlocate (ref : ColumnRef) (hr : ref ∈ selection.refs) :=
        Source.locate_eq_place _ h.names_nodup ref (h.columns ref hr)
      have hown : (Source.place (selection.storedSources database) join.reference).source =
          before.length + 1 := (h.reference_eq hstar before rest join hj).1
      have hroot := (h.root_cell_eq join.target (target_mem_refs join hm) (hstar.joins join hm).2).1
      have hrest := ih (before ++ [join]) (by simp [hj])
      rw [List.length_append, List.length_singleton] at hrest
      have hreference : locateUpTo (selection.storedSources database) (before.length + 1)
          join.reference = .ok (selection.locatedJoin database join).reference := by
        simp only [locateUpTo, hlocate _ (reference_mem_refs join hm), bind, Except.bind]
        exact if_neg (by omega)
      have htarget : locateUpTo (selection.storedSources database) (before.length + 1)
          join.target = .ok (selection.locatedJoin database join).target := by
        simp only [locateUpTo, hlocate _ (target_mem_refs join hm), bind, Except.bind]
        exact if_neg (by omega)
      simp only [locateJoins, htable, hreference, htarget, hrest]
      rfl

theorem Served.extend_eq (h : selection.Served database) (hstar : selection.Starlike)
    (before rest : List Join) (join : Join) (hj : selection.joins = before ++ join :: rest)
    (row : List Value) (chosen : List (List Value)) (hlength : chosen.length = before.length) :
    (selection.locatedJoin database join).extend (row :: chosen) =
      (selection.partners database row join).map fun partner => row :: chosen ++ [partner] := by
  have hm : join ∈ selection.joins := by simp [hj]
  refine LocatedJoin.extend_eq _ _ _ _ ?_ ?_
  · intro partner
    refine (h.reference_eq hstar before rest join hj).2 _ partner ?_
    simp [← hlength]
  · intro partner
    exact (h.root_cell_eq join.target (target_mem_refs join hm) (hstar.joins join hm).2).2 _ _

-- A row of the root and the rows that the joins so far have put beside it, with each row that one more
-- join puts there.
def grow (selection : Selection) (database : Database) (join : Join)
    (start : List Value × List (List Value)) : List (List Value × List (List Value)) :=
  (selection.partners database start.1 join).map fun partner => (start.1, start.2 ++ [partner])

theorem length_of_mem_grow (selection : Selection) (database : Database) (join : Join) (size : Nat)
    (starts : List (List Value × List (List Value)))
    (hlength : ∀ start ∈ starts, start.2.length = size) :
    ∀ start ∈ starts.flatMap (selection.grow database join), start.2.length = size + 1 := by
  intro start hs
  obtain ⟨earlier, he, hg⟩ := List.mem_flatMap.mp hs
  obtain ⟨partner, _, rfl⟩ := List.mem_map.mp hg
  simp [hlength earlier he]

theorem Served.extend_starts_eq (h : selection.Served database) (hstar : selection.Starlike)
    (before rest : List Join) (join : Join) (hj : selection.joins = before ++ join :: rest)
    (starts : List (List Value × List (List Value)))
    (hlength : ∀ start ∈ starts, start.2.length = before.length) :
    (starts.map fun start => start.1 :: start.2).flatMap
        (selection.locatedJoin database join).extend =
      (starts.flatMap (selection.grow database join)).map fun start => start.1 :: start.2 := by
  rw [List.flatMap_map, List.map_flatMap]
  refine List.flatMap_congr fun start hs => ?_
  rw [h.extend_eq hstar before rest join hj start.1 start.2 (hlength start hs), grow, List.map_map]
  rfl

-- Induction on the joins that are left: `before` holds those that gave the rows in each start.
theorem Served.extendAll_eq (h : selection.Served database) (hstar : selection.Starlike)
    (before rest : List Join) (hj : selection.joins = before ++ rest)
    (starts : List (List Value × List (List Value)))
    (hlength : ∀ start ∈ starts, start.2.length = before.length) :
    LocatedJoin.extendAll (starts.map fun start => start.1 :: start.2)
        (rest.map (selection.locatedJoin database)) =
      starts.flatMap fun start =>
        (choices (rest.map (selection.partners database start.1))).map fun chosen =>
          start.1 :: (start.2 ++ chosen) := by
  induction rest generalizing before starts with
  | nil =>
      simp only [List.map_nil, LocatedJoin.extendAll, choices, List.map_cons, List.append_nil]
      exact List.map_eq_flatMap
  | cons join rest ih =>
      have hlater := length_of_mem_grow selection database join before.length starts hlength
      have hrest := ih (before ++ [join]) (by simp [hj]) (starts.flatMap (selection.grow database join))
        (by simpa using hlater)
      rw [List.map_cons, LocatedJoin.extendAll,
        h.extend_starts_eq hstar before rest join hj starts hlength, hrest, List.flatMap_assoc]
      refine List.flatMap_congr fun start _ => ?_
      simp [grow, List.flatMap_map, choices, List.map_flatMap, Function.comp_def]

def keeps (selection : Selection) (database : Database) (arguments : List (String × Value))
    (row : List Value) : Bool :=
  selection.conditions.all fun condition =>
    ((database.stored selection.table).value row condition.column.column).equals
      (argument arguments condition.parameter)

def shown (selection : Selection) (database : Database) (combination : Combination)
    (output : Output) : String × Value :=
  (output.name, cell combination (Source.place (selection.storedSources database) output.source))

theorem Served.meets_eq (h : selection.Served database) (hstar : selection.Starlike)
    (arguments : List (String × Value)) (row : List Value) (chosen : List (List Value)) :
    meets arguments (row :: chosen) (selection.conditions.zip
        ((selection.conditions.map Condition.column).map
          (Source.place (selection.storedSources database)))) =
      selection.keeps database arguments row := by
  rw [List.map_map, ← List.map_prod_left_eq_zip, meets, keeps, List.all_map, Bool.eq_iff_iff, List.all_eq_true,
    List.all_eq_true]
  refine forall₂_congr fun condition hc => ?_
  have hm : condition.column ∈ selection.refs := by
    simp only [refs, List.mem_append]
    exact .inr (List.mem_map_of_mem hc)
  have hcell := (h.root_cell_eq condition.column hm (hstar.conditions condition hc)).2 row chosen
  rw [← hcell]
  rfl

-- The rows of the root that meet the conditions, each with all choices of rows that it points to.
theorem Served.rows_eq (h : selection.Served database) (hstar : selection.Starlike)
    (hne : selection.outputs ≠ []) (arguments : List (String × Value)) :
    selection.rows database arguments =
      .ok (((database.stored selection.table).rows.filter
        (selection.keeps database arguments)).flatMap fun row =>
          (choices (selection.joins.map (selection.partners database row))).map fun chosen =>
            selection.outputs.map (selection.shown database (row :: chosen))) := by
  have htable := h.tableOf_eq selection.table List.mem_cons_self
  have hjoins := h.locateJoins_eq hstar [] selection.joins rfl
  have hlocate (refs : List ColumnRef) (hr : ∀ ref ∈ refs, ref ∈ selection.refs) :=
    Source.locateAll_eq_place _ h.names_nodup refs fun ref hm => h.columns ref (hr ref hm)
  have houtputs := hlocate (selection.outputs.map Output.source) (by simp +contextual [refs])
  have hconditions := hlocate (selection.conditions.map Condition.column)
    (by simp +contextual [refs])
  have hall := h.extendAll_eq hstar [] selection.joins rfl
    ((database.stored selection.table).rows.map fun row => (row, [])) (by simp)
  simp only [List.map_map, Function.comp_def, List.flatMap_map, List.nil_append] at hall
  simp only [List.length_nil, Nat.zero_add] at hjoins
  simp only [rows, hne, htable, h.sources_eq, hjoins, houtputs, hconditions, hall, bind, Except.bind]
  rw [if_neg not_false, filter_flatMap_of_const _ _ (selection.keeps database arguments),
    List.map_flatMap]
  · simp only [List.map_map, Function.comp_def, outputRow, List.map_map, ← List.map_prod_left_eq_zip]
    rfl
  · intro row combination hm
    obtain ⟨chosen, _, rfl⟩ := List.mem_map.mp hm
    exact h.meets_eq hstar arguments row chosen

end Selection

end Finder
