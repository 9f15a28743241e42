import Finder.Statement.Rows
import Mathlib.Data.List.Nodup

namespace Finder

namespace Table

-- The value that a row has in a column.
def value (table : Table) (row : List Value) (column : String) : Value :=
  ((table.columns.idxOf? column).bind fun position => row[position]?).getD .null

-- The rows that have this value in a column.
def matching (table : Table) (column : String) (value : Value) : List (List Value) :=
  table.rows.filter fun row => (table.value row column).equals value

def matchingOrNull (table : Table) (column : String) (value : Value) : List (List Value) :=
  if table.matching column value = [] then [table.nullRow] else table.matching column value

theorem length_matchingOrNull (table : Table) (column : String) (value : Value) :
    (table.matchingOrNull column value).length = max 1 (table.matching column value).length := by
  unfold matchingOrNull
  split
  · next h => simp [h]
  · next h =>
    have := List.length_pos_iff.mpr h
    omega

end Table

-- A table that is missing is taken for one without columns.
def Database.stored (database : Database) (name : String) : Table :=
  (database.table? name).getD ⟨name, [], []⟩

theorem Database.name_stored (database : Database) (name : String) :
    (database.stored name).name = name := by
  unfold stored table?
  cases h : database.tables.find? fun table => table.name == name with
  | none => rfl
  | some table => simpa using List.find?_some h

namespace Source

-- A column is among the sources when the source of its name has it.
def Has (sources : List Source) (ref : ColumnRef) : Prop :=
  ∃ source ∈ sources, source.name = ref.table ∧ ref.column ∈ source.table.columns

theorem placesFrom_eq_nil (ref : ColumnRef) (position : Nat) (sources : List Source)
    (h : ref.table ∉ sources.map name) : placesFrom ref position sources = [] := by
  induction sources generalizing position with
  | nil => rfl
  | cons source rest ih =>
      rw [List.map_cons, List.mem_cons, not_or] at h
      simp only [placesFrom]
      rw [if_neg (Ne.symm h.1)]
      exact ih (position + 1) h.2

theorem placesFrom_of_getElem? (ref : ColumnRef) (position : Nat) (sources : List Source)
    (hdistinct : (sources.map name).Nodup) (i : Nat) (source : Source)
    (hs : sources[i]? = some source) (hname : source.name = ref.table) (column : Nat)
    (hc : source.table.columns.idxOf? ref.column = some column) :
    placesFrom ref position sources = [⟨position + i, column⟩] := by
  induction sources generalizing position i with
  | nil => simp at hs
  | cons first rest ih =>
      rw [List.map_cons, List.nodup_cons] at hdistinct
      simp only [placesFrom]
      cases i with
      | zero =>
          obtain rfl : first = source := by simpa using hs
          have hlater := placesFrom_eq_nil ref (position + 1) rest (hname ▸ hdistinct.1)
          simp [hname, hc, hlater]
      | succ i =>
          rw [List.getElem?_cons_succ] at hs
          have hne : first.name ≠ ref.table := by
            intro he
            apply hdistinct.1
            rw [he, ← hname]
            exact List.mem_map_of_mem (List.mem_of_getElem? hs)
          rw [if_neg hne, ih (position + 1) hdistinct.2 i hs]
          simp only [List.cons.injEq, Place.mk.injEq, and_true]
          omega

theorem locate_of_getElem? (sources : List Source) (hdistinct : (sources.map name).Nodup)
    (ref : ColumnRef) (i : Nat) (source : Source) (hs : sources[i]? = some source)
    (hname : source.name = ref.table) (column : Nat)
    (hc : source.table.columns.idxOf? ref.column = some column) :
    locate sources ref = .ok ⟨i, column⟩ := by
  have hp := placesFrom_of_getElem? ref 0 sources hdistinct i source hs hname column hc
  rw [locate, hp]
  simp

-- The place of a column that is known to have one.
def place (sources : List Source) (ref : ColumnRef) : Place :=
  match locate sources ref with
  | .ok place => place
  | .error _ => ⟨0, 0⟩

theorem place_of_getElem? (sources : List Source) (hdistinct : (sources.map name).Nodup)
    (ref : ColumnRef) (i : Nat) (source : Source) (hs : sources[i]? = some source)
    (hname : source.name = ref.table) (hcolumn : ref.column ∈ source.table.columns) :
    (place sources ref).source = i ∧
      source.table.columns.idxOf? ref.column = some (place sources ref).column := by
  obtain ⟨column, hc⟩ := Option.isSome_iff_exists.mp (List.isSome_idxOf?.mpr hcolumn)
  simp [place, locate_of_getElem? sources hdistinct ref i source hs hname column hc, hc]

theorem locate_eq_place (sources : List Source) (hdistinct : (sources.map name).Nodup)
    (ref : ColumnRef) (h : Has sources ref) : locate sources ref = .ok (place sources ref) := by
  obtain ⟨source, hm, hname, hcolumn⟩ := h
  obtain ⟨i, hi⟩ := List.getElem?_of_mem hm
  obtain ⟨column, hc⟩ := Option.isSome_iff_exists.mp (List.isSome_idxOf?.mpr hcolumn)
  simp [place, locate_of_getElem? sources hdistinct ref i source hi hname column hc]

theorem locateAll_eq_place (sources : List Source) (hdistinct : (sources.map name).Nodup)
    (refs : List ColumnRef) (h : ∀ ref ∈ refs, Has sources ref) :
    locateAll sources refs = .ok (refs.map (place sources)) := by
  induction refs with
  | nil => rfl
  | cons ref rest ih =>
      have hfirst := locate_eq_place sources hdistinct ref (h ref List.mem_cons_self)
      have hrest := ih fun other ho => h other (List.mem_cons_of_mem _ ho)
      simp only [locateAll, hfirst, hrest]
      rfl

-- What a combination has in a column depends on the row of its source only.
theorem cell_place (sources : List Source) (hdistinct : (sources.map name).Nodup)
    (ref : ColumnRef) (i : Nat) (source : Source) (hs : sources[i]? = some source)
    (hname : source.name = ref.table) (hcolumn : ref.column ∈ source.table.columns)
    (combination : Combination) (row : List Value) (hr : combination[i]? = some row) :
    cell combination (place sources ref) = source.table.value row ref.column := by
  obtain ⟨hi, hc⟩ := place_of_getElem? sources hdistinct ref i source hs hname hcolumn
  simp [cell, Table.value, hi, hr, hc]

end Source

end Finder
