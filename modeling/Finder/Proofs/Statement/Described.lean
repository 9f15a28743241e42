import Finder.Proofs.Query.Stages
import Finder.Proofs.Statement.Results
import Mathlib.Data.List.Count

namespace Finder

namespace Schema

-- The columns that an entity asks for: one of its own for each scalar property visible on it, and
-- in the table of each entity that it refers to one that is named like its own table.
def asked (schema : Schema) (entity : Entity) : List ColumnRef :=
  (schema.visible entity.name).filterMap fun found =>
    match found.property.type with
    | .scalar _ => some ⟨entity.tableName, found.property.columnName⟩
    | .entity target => (schema.tableName? target).map fun table => ⟨table, entity.tableName⟩

def described (schema : Schema) : List ColumnRef :=
  schema.entities.flatMap schema.asked

-- A database that has all tables and columns that the entities ask for, and maybe more.
structure Describes (schema : Schema) (database : Database) : Prop where
  tables : ∀ entity ∈ schema.entities, (database.table? entity.tableName).isSome
  columns : ∀ ref ∈ schema.described, ref.column ∈ (database.stored ref.table).columns

-- The names under which the entities that a root refers to are joined.
def aliases (schema : Schema) (root : String) : List String :=
  (schema.visible root).filterMap fun found =>
    found.property.type.target?.map fun _ => found.property.columnName

-- A root whose references can be joined: the column that tells its rows apart is one that its table
-- is asked to have, and no two of the joined tables go by one name.
structure Joinable (schema : Schema) (root : String) : Prop where
  id_described : ∀ table idColumn, schema.tableName? root = some table →
    schema.idColumn? root = some idColumn → schema.targets root ≠ [] →
      ⟨table, idColumn⟩ ∈ schema.described
  aliases_differ : ∀ table, schema.tableName? root = some table →
    (table :: schema.aliases root).Nodup

section

variable {schema : Schema}

theorem exists_entity_of_tableName? (name table : String)
    (h : schema.tableName? name = some table) :
    ∃ entity ∈ schema.entities, entity.name = name ∧ entity.tableName = table := by
  obtain ⟨entity, hentity, htable⟩ := Option.map_eq_some_iff.mp h
  obtain ⟨hm, hname⟩ := schema.entity?_eq_some name entity hentity
  exact ⟨entity, hm, hname, htable⟩

theorem described_of_scalar (name table : String) (htable : schema.tableName? name = some table)
    (found : OwnedProperty) (hm : found ∈ schema.visible name) (kind : Scalar)
    (ht : found.property.type = .scalar kind) :
    ⟨table, found.property.columnName⟩ ∈ schema.described := by
  obtain ⟨entity, hentity, rfl, rfl⟩ := exists_entity_of_tableName? name table htable
  refine List.mem_flatMap.mpr ⟨entity, hentity, ?_⟩
  exact List.mem_filterMap.mpr ⟨found, hm, by rw [ht]⟩

theorem described_of_entity (name table : String) (htable : schema.tableName? name = some table)
    (found : OwnedProperty) (hm : found ∈ schema.visible name) (target child : String)
    (ht : found.property.type = .entity target) (hchild : schema.tableName? target = some child) :
    ⟨child, table⟩ ∈ schema.described := by
  obtain ⟨entity, hentity, rfl, rfl⟩ := exists_entity_of_tableName? name table htable
  refine List.mem_flatMap.mpr ⟨entity, hentity, ?_⟩
  exact List.mem_filterMap.mpr ⟨found, hm, by simp only [ht, hchild, Option.map_some]⟩

-- No column is asked for outside of the tables of entities.
theorem exists_entity_of_described (ref : ColumnRef) (h : ref ∈ schema.described) :
    ∃ entity ∈ schema.entities, entity.tableName = ref.table := by
  obtain ⟨entity, hentity, hasked⟩ := List.mem_flatMap.mp h
  obtain ⟨found, _, hfound⟩ := List.mem_filterMap.mp hasked
  split at hfound
  · obtain rfl := Option.some.inj hfound
    exact ⟨entity, hentity, rfl⟩
  · next target _ =>
    obtain ⟨table, htable, rfl⟩ := Option.map_eq_some_iff.mp hfound
    obtain ⟨other, hother, _, hname⟩ := exists_entity_of_tableName? target table htable
    exact ⟨other, hother, hname⟩

-- The columns that a table is asked to have.
def askedOf (schema : Schema) (table : String) : List String :=
  (schema.described.filter fun ref => ref.table = table).map ColumnRef.column

theorem mem_askedOf_iff (table column : String) :
    column ∈ schema.askedOf table ↔ ⟨table, column⟩ ∈ schema.described := by
  simp only [askedOf, List.mem_map, List.mem_filter, decide_eq_true_eq]
  constructor
  · rintro ⟨ref, ⟨href, rfl⟩, rfl⟩
    exact href
  · intro href
    exact ⟨_, ⟨href, rfl⟩, rfl⟩

-- The tables of all entities without any rows, with columns as chosen for each name of a table.
def built (schema : Schema) (columns : String → List String) : Database :=
  ⟨schema.entities.map fun entity => ⟨entity.tableName, columns entity.tableName, []⟩⟩

theorem table?_built (columns : String → List String) (entity : Entity)
    (h : entity ∈ schema.entities) :
    (schema.built columns).table? entity.tableName =
      some ⟨entity.tableName, columns entity.tableName, []⟩ := by
  have hsome : ((schema.built columns).table? entity.tableName).isSome := by
    rw [Database.table?, List.find?_isSome]
    exact ⟨_, List.mem_map_of_mem h, by simp⟩
  obtain ⟨table, htable⟩ := Option.isSome_iff_exists.mp hsome
  have hname : table.name = entity.tableName := by simpa using List.find?_some htable
  obtain ⟨other, _, rfl⟩ := List.mem_map.mp (List.mem_of_find?_eq_some htable)
  rw [htable, ← hname]

theorem stored_built (columns : String → List String) (entity : Entity)
    (h : entity ∈ schema.entities) :
    (schema.built columns).stored entity.tableName =
      ⟨entity.tableName, columns entity.tableName, []⟩ := by
  rw [Database.stored, table?_built columns entity h, Option.getD_some]

theorem describes_built (columns : String → List String)
    (h : ∀ ref ∈ schema.described, ref.column ∈ columns ref.table) :
    schema.Describes (schema.built columns) where
  tables entity hentity := by
    rw [table?_built columns entity hentity]
    rfl
  columns ref href := by
    obtain ⟨entity, hentity, hname⟩ := exists_entity_of_described ref href
    rw [← hname, stored_built columns entity hentity, hname]
    exact h ref href

end

end Schema

namespace Source

-- How many sources have a column.
def holders (sources : List Source) (ref : ColumnRef) : Nat :=
  sources.countP fun source => source.name = ref.table ∧ ref.column ∈ source.table.columns

theorem length_placesFrom (ref : ColumnRef) (position : Nat) (sources : List Source) :
    (placesFrom ref position sources).length = holders sources ref := by
  induction sources generalizing position with
  | nil => rfl
  | cons source rest ih =>
      have hrest := ih (position + 1)
      rw [holders] at hrest ⊢
      rw [placesFrom, List.countP_cons, ← hrest]
      by_cases hname : source.name = ref.table
      · rw [if_pos hname]
        cases hc : source.table.columns.idxOf? ref.column with
        | none =>
            have hmem : ref.column ∉ source.table.columns := by simpa using hc
            simp [hmem]
        | some column =>
            have hmem : ref.column ∈ source.table.columns :=
              List.isSome_idxOf?.mp (Option.isSome_iff_exists.mpr ⟨column, hc⟩)
            simp [hname, hmem]
      · simp [hname]

-- A column is found where one source has it, and no other.
theorem holders_of_locate (sources : List Source) (ref : ColumnRef) (place : Place)
    (h : locate sources ref = .ok place) : holders sources ref = 1 := by
  rw [← length_placesFrom ref 0 sources]
  unfold locate at h
  split at h
  · next hplaces => rw [hplaces, List.length_singleton]
  · cases h
  · cases h

theorem has_of_holders (sources : List Source) (ref : ColumnRef) (h : holders sources ref = 1) :
    Has sources ref := by
  have hpos : 0 < holders sources ref := by omega
  obtain ⟨source, hm, hsource⟩ := List.countP_pos_iff.mp hpos
  simp only [decide_eq_true_eq] at hsource
  exact ⟨source, hm, hsource.1, hsource.2⟩

-- A column that all sources have is told apart by their names only.
theorem holders_eq_count (sources : List Source) (ref : ColumnRef)
    (h : ∀ source ∈ sources, ref.column ∈ source.table.columns) :
    holders sources ref = (sources.map name).count ref.table := by
  rw [holders, List.count, List.countP_map]
  refine List.countP_congr fun source hm => ?_
  simp [h source hm]

end Source

namespace Selection

variable {selection : Selection} {database : Database}

theorem has_root (column : String) (h : column ∈ (database.stored selection.table).columns) :
    Source.Has (selection.storedSources database) ⟨selection.table, column⟩ :=
  ⟨_, List.mem_cons_self, rfl, h⟩

theorem has_join (join : Join) (hj : join ∈ selection.joins) (column : String)
    (h : column ∈ (database.stored join.table).columns) :
    Source.Has (selection.storedSources database) ⟨join.name, column⟩ :=
  ⟨_, List.mem_cons_of_mem _ (List.mem_map_of_mem hj), rfl, h⟩

theorem table_of_source (source : Source) (h : source ∈ selection.storedSources database) :
    ∃ name ∈ selection.table :: selection.joins.map Join.table,
      source.table = database.stored name := by
  rcases List.mem_cons.mp h with rfl | h
  · exact ⟨_, List.mem_cons_self, rfl⟩
  · obtain ⟨join, hj, rfl⟩ := List.mem_map.mp h
    exact ⟨join.table, List.mem_cons_of_mem _ (List.mem_map_of_mem hj), rfl⟩

-- No joined table passes for the root.
theorem column_of_has_root (hdiffer : (selection.table :: selection.joins.map Join.name).Nodup)
    (column : String)
    (h : Source.Has (selection.storedSources database) ⟨selection.table, column⟩) :
    column ∈ (database.stored selection.table).columns := by
  obtain ⟨source, hm, hname, hcolumn⟩ := h
  rcases List.mem_cons.mp hm with rfl | hm
  · exact hcolumn
  · obtain ⟨join, hj, rfl⟩ := List.mem_map.mp hm
    have hmem : selection.table ∈ selection.joins.map Join.name :=
      List.mem_map.mpr ⟨join, hj, hname⟩
    exact absurd hmem (List.nodup_cons.mp hdiffer).1

theorem locate_of_locateUpTo (sources : List Source) (position : Nat) (ref : ColumnRef)
    (place : Place) (h : locateUpTo sources position ref = .ok place) :
    ∃ found, Source.locate sources ref = .ok found := by
  obtain ⟨found, hfound, _⟩ := (except_bind_eq_ok _ _ _).mp h
  exact ⟨found, hfound⟩

theorem located_of_locateJoins (sources : List Source) (position : Nat) (joins : List Join)
    (located : List LocatedJoin) (h : locateJoins sources database position joins = .ok located) :
    ∀ join ∈ joins, Source.holders sources join.reference = 1 ∧
      Source.holders sources join.target = 1 := by
  induction joins generalizing position located with
  | nil => simp
  | cons join rest ih =>
      obtain ⟨_, _, h⟩ := (except_bind_eq_ok _ _ _).mp h
      obtain ⟨_, hreference, h⟩ := (except_bind_eq_ok _ _ _).mp h
      obtain ⟨_, htarget, h⟩ := (except_bind_eq_ok _ _ _).mp h
      obtain ⟨later, hlater, _⟩ := (except_bind_eq_ok _ _ _).mp h
      obtain ⟨_, hreference⟩ := locate_of_locateUpTo _ _ _ _ hreference
      obtain ⟨_, htarget⟩ := locate_of_locateUpTo _ _ _ _ htarget
      rw [List.forall_mem_cons]
      exact ⟨⟨Source.holders_of_locate _ _ _ hreference, Source.holders_of_locate _ _ _ htarget⟩,
        ih (position + 1) later hlater⟩

-- A statement that gives rows has found both columns of each join.
theorem located_of_rows (htables : ∀ name ∈ selection.table :: selection.joins.map Join.table,
      (database.table? name).isSome) (bound : List (String × Value)) (rows : List Row)
    (h : selection.rows database bound = .ok rows) :
    ∀ join ∈ selection.joins,
      Source.holders (selection.storedSources database) join.reference = 1 ∧
        Source.holders (selection.storedSources database) join.target = 1 := by
  unfold Selection.rows at h
  split at h
  · cases h
  · obtain ⟨_, _, h⟩ := (except_bind_eq_ok _ _ _).mp h
    obtain ⟨sources, hsources, h⟩ := (except_bind_eq_ok _ _ _).mp h
    obtain ⟨located, hlocated, _⟩ := (except_bind_eq_ok _ _ _).mp h
    rw [sources_eq_stored selection database htables] at hsources
    obtain rfl := Except.ok.inj hsources
    exact located_of_locateJoins _ _ _ _ hlocated

end Selection

namespace Statement

variable {schema : Schema} {root : String} {parameters : List Parameter} {selection : Selection}
  {database : Database}

-- Each join stands for a reference of the root.
theorem Finds.exists_reference (h : Finds schema root parameters selection) (join : Join)
    (hj : join ∈ selection.joins) :
    ∃ found ∈ schema.visible root, ∃ target child, found.property.type = .entity target ∧
      schema.tableName? target = some child ∧
      join = ⟨child, found.property.columnName, ⟨found.property.columnName, selection.table⟩,
        ⟨selection.table, (schema.idColumn? root).getD ""⟩⟩ := by
  rw [h.joins] at hj
  obtain ⟨found, hm, hfound⟩ := List.mem_filterMap.mp hj
  unfold rootJoin? join? at hfound
  cases ht : found.property.type with
  | scalar kind => simp [ht] at hfound
  | entity target =>
      simp only [ht] at hfound
      obtain ⟨child, hchild, rfl⟩ := Option.map_eq_some_iff.mp hfound
      exact ⟨found, hm, target, child, ht, hchild, rfl⟩

theorem Finds.exists_join (h : Finds schema root parameters selection) (found : OwnedProperty)
    (hm : found ∈ schema.visible root) (target : String)
    (ht : found.property.type = .entity target) :
    ∃ join ∈ selection.joins, join.name = found.property.columnName ∧
      schema.tableName? target = some join.table := by
  obtain ⟨child, hchild, hjoin⟩ := h.exists_rootJoin found hm target ht
  rw [h.joins]
  exact ⟨_, List.mem_filterMap.mpr ⟨found, hm, hjoin⟩, rfl, hchild⟩

theorem Finds.names_eq_aliases (h : Finds schema root parameters selection) :
    selection.joins.map Join.name = schema.aliases root := by
  rw [h.joins, List.map_filterMap, Schema.aliases]
  refine List.filterMap_congr fun found hm => ?_
  cases ht : found.property.type with
  | scalar kind => simp [rootJoin?, join?, ht, PropertyType.target?]
  | entity target =>
      obtain ⟨child, _, hjoin⟩ := h.exists_rootJoin found hm target ht
      rw [hjoin, Option.map_some]
      rfl

theorem Finds.targets_ne_nil (h : Finds schema root parameters selection) (join : Join)
    (hj : join ∈ selection.joins) : schema.targets root ≠ [] := by
  obtain ⟨found, hm, target, _, ht, _, _⟩ := h.exists_reference join hj
  exact List.ne_nil_of_mem (schema.mem_targets root found hm target ht)

-- All tables that a find reads are those of entities.
theorem Finds.exists_entity (h : Finds schema root parameters selection) (name : String)
    (hname : name ∈ selection.table :: selection.joins.map Join.table) :
    ∃ entity ∈ schema.entities, entity.tableName = name := by
  rcases List.mem_cons.mp hname with rfl | hname
  · obtain ⟨entity, hentity, _, htable⟩ := schema.exists_entity_of_tableName? root _ h.table
    exact ⟨entity, hentity, htable⟩
  · obtain ⟨join, hj, rfl⟩ := List.mem_map.mp hname
    obtain ⟨_, _, target, child, _, hchild, rfl⟩ := h.exists_reference join hj
    obtain ⟨entity, hentity, _, htable⟩ := schema.exists_entity_of_tableName? target child hchild
    exact ⟨entity, hentity, htable⟩

theorem Finds.tables_isSome (h : Finds schema root parameters selection)
    (hdescribes : schema.Describes database) :
    ∀ name ∈ selection.table :: selection.joins.map Join.table,
      (database.table? name).isSome := by
  intro name hname
  obtain ⟨entity, hentity, rfl⟩ := h.exists_entity name hname
  exact hdescribes.tables entity hentity

theorem Finds.output_has (h : Finds schema root parameters selection)
    (hdescribes : schema.Describes database) (output : Output) (ho : output ∈ selection.outputs) :
    Source.Has (selection.storedSources database) output.source := by
  rw [h.outputs] at ho
  obtain ⟨found, hm, hfound⟩ := List.mem_flatMap.mp ho
  cases ht : found.property.type with
  | scalar kind =>
      rw [Statement.outputs, ht, List.mem_singleton] at hfound
      have hasked := schema.described_of_scalar root _ h.table found hm kind ht
      have hcolumn := hdescribes.columns _ hasked
      exact hfound ▸ Selection.has_root _ hcolumn
  | entity target =>
      obtain ⟨join, hj, hname, htable⟩ := h.exists_join found hm target ht
      simp only [Statement.outputs, ht, childOutputs] at hfound
      obtain ⟨other, hother, hsome⟩ := List.mem_filterMap.mp hfound
      cases hkind : other.property.type with
      | entity _ => simp [hkind] at hsome
      | scalar kind =>
          rw [hkind] at hsome
          obtain rfl := Option.some.inj hsome
          have hcolumn := hdescribes.columns _
            (schema.described_of_scalar target join.table htable other hother kind hkind)
          exact hname ▸ Selection.has_join join hj _ hcolumn

theorem Finds.join_has (h : Finds schema root parameters selection)
    (hdescribes : schema.Describes database) (hjoinable : schema.Joinable root) (join : Join)
    (hj : join ∈ selection.joins) :
    Source.Has (selection.storedSources database) join.reference ∧
      Source.Has (selection.storedSources database) join.target := by
  have htargets := h.targets_ne_nil join hj
  obtain ⟨found, hm, target, child, ht, hchild, rfl⟩ := h.exists_reference join hj
  obtain ⟨_, idColumn, _, _, hid, _⟩ := schema.exists_names root h.contains_root
  constructor
  · have hcolumn := hdescribes.columns _
      (schema.described_of_entity root _ h.table found hm target child ht hchild)
    exact Selection.has_join _ hj _ hcolumn
  · have hcolumn := hdescribes.columns _
      (hjoinable.id_described _ idColumn h.table hid htargets)
    rw [hid, Option.getD_some]
    exact Selection.has_root _ hcolumn

theorem Finds.condition_has (h : Finds schema root parameters selection)
    (hdescribes : schema.Describes database) (condition : Condition)
    (hc : condition ∈ selection.conditions) :
    Source.Has (selection.storedSources database) condition.column := by
  obtain ⟨parameter, _, found, kind, hfound, ht, rfl⟩ :=
    exists_left_of_forall₂ h.conditions condition hc
  have hm := schema.mem_visible_of_property? root parameter.name found hfound
  have hasked := schema.described_of_scalar root _ h.table found hm kind ht
  have hcolumn := hdescribes.columns _ hasked
  exact Selection.has_root _ hcolumn

-- A database that the schema describes has all that the find on a joinable root names.
theorem Finds.served (h : Finds schema root parameters selection)
    (hdescribes : schema.Describes database) (hjoinable : schema.Joinable root) :
    selection.Served database where
  tables := h.tables_isSome hdescribes
  columns := by
    intro ref href
    simp only [Selection.refs, List.mem_append] at href
    rcases href with (href | href) | href
    · obtain ⟨output, ho, rfl⟩ := List.mem_map.mp href
      exact h.output_has hdescribes output ho
    · obtain ⟨join, hj, href⟩ := List.mem_flatMap.mp href
      obtain ⟨hreference, htarget⟩ := h.join_has hdescribes hjoinable join hj
      simp only [List.mem_cons, List.not_mem_nil, or_false] at href
      rcases href with rfl | rfl
      · exact hreference
      · exact htarget
    · obtain ⟨condition, hc, rfl⟩ := List.mem_map.mp href
      exact h.condition_has hdescribes condition hc
  distinct := by
    rw [h.names_eq_aliases]
    exact hjoinable.aliases_differ _ h.table

theorem nodup_of_count_rest {α : Type} [DecidableEq α] (first : α) (rest : List α)
    (h : ∀ a ∈ rest, (first :: rest).count a = 1) : (first :: rest).Nodup := by
  rw [List.nodup_iff_count_le_one]
  intro a
  by_cases ha : a ∈ rest
  · exact (h a ha).le
  · have hrest : rest.count a = 0 := List.count_eq_zero.mpr ha
    rw [List.count_cons, hrest]
    split <;> omega

-- Where every table has all columns that any is asked for, only its name tells a source apart.
theorem Finds.aliases_differ_of_rows (h : Finds schema root parameters selection)
    (hrows : ∃ bound rows, selection.rows
      (schema.built fun _ => schema.described.map ColumnRef.column) bound = .ok rows) :
    (selection.table :: schema.aliases root).Nodup := by
  obtain ⟨bound, rows, hrows⟩ := hrows
  have hdescribes := schema.describes_built (fun _ => schema.described.map ColumnRef.column)
    fun ref href => List.mem_map_of_mem href
  have hlocated := Selection.located_of_rows (h.tables_isSome hdescribes) bound rows hrows
  rw [← h.names_eq_aliases]
  refine nodup_of_count_rest _ _ fun name hname => ?_
  obtain ⟨join, hj, rfl⟩ := List.mem_map.mp hname
  obtain ⟨found, hm, target, child, ht, hchild, hjoin⟩ := h.exists_reference join hj
  have hasked := schema.described_of_entity root _ h.table found hm target child ht hchild
  have hall : ∀ source ∈ selection.storedSources
      (schema.built fun _ => schema.described.map ColumnRef.column),
      join.reference.column ∈ source.table.columns := by
    intro source hsource
    obtain ⟨name, hname, htable⟩ := Selection.table_of_source source hsource
    obtain ⟨entity, hentity, rfl⟩ := h.exists_entity name hname
    rw [htable, Schema.stored_built _ entity hentity, hjoin]
    exact List.mem_map.mpr ⟨_, hasked, rfl⟩
  have hone := (hlocated join hj).1
  rw [Source.holders_eq_count _ _ hall, Selection.names_storedSources] at hone
  rwa [hjoin] at hone ⊢

-- Where each table has just the columns that it is asked for, the identifier is among those of the
-- root.
theorem Finds.id_described_of_rows (h : Finds schema root parameters selection)
    (hdiffer : (selection.table :: schema.aliases root).Nodup) (idColumn : String)
    (hid : schema.idColumn? root = some idColumn) (htargets : schema.targets root ≠ [])
    (hrows : ∃ bound rows, selection.rows (schema.built schema.askedOf) bound = .ok rows) :
    ⟨selection.table, idColumn⟩ ∈ schema.described := by
  obtain ⟨bound, rows, hrows⟩ := hrows
  have hdescribes := schema.describes_built schema.askedOf fun ref href =>
    (schema.mem_askedOf_iff ref.table ref.column).mpr href
  have hlocated := Selection.located_of_rows (h.tables_isSome hdescribes) bound rows hrows
  obtain ⟨target, htarget⟩ := List.exists_mem_of_ne_nil _ htargets
  obtain ⟨found, hm, ht⟩ := List.mem_filterMap.mp htarget
  have htype := (PropertyType.target?_eq_some_iff _ _).mp ht
  obtain ⟨join, hj, _⟩ := h.exists_join found hm target htype
  obtain ⟨_, _, _, _, _, _, hjoin⟩ := h.exists_reference join hj
  have hhas := Source.has_of_holders _ _ (hlocated join hj).2
  rw [hjoin, hid, Option.getD_some] at hhas
  rw [← h.names_eq_aliases] at hdiffer
  have hcolumn := Selection.column_of_has_root hdiffer idColumn hhas
  obtain ⟨entity, hentity, hname⟩ := h.exists_entity _ List.mem_cons_self
  rw [← hname, Schema.stored_built _ entity hentity, hname] at hcolumn
  exact (schema.mem_askedOf_iff _ _).mp hcolumn

-- A root whose find runs wherever the schema describes the database is joinable.
theorem Finds.joinable_of_rows (h : Finds schema root parameters selection)
    (hrows : ∀ database, schema.Describes database →
      ∃ bound rows, selection.rows database bound = .ok rows) : schema.Joinable root := by
  have hdiffer := h.aliases_differ_of_rows (hrows _ (schema.describes_built _ fun ref href =>
    List.mem_map_of_mem href))
  have hminimal := hrows _ (schema.describes_built schema.askedOf fun ref href =>
    (schema.mem_askedOf_iff ref.table ref.column).mpr href)
  constructor
  · intro table idColumn htable hid htargets
    obtain rfl := Option.some.inj (htable.symm.trans h.table)
    exact h.id_described_of_rows hdiffer idColumn hid htargets hminimal
  · intro table htable
    obtain rfl := Option.some.inj (htable.symm.trans h.table)
    exact hdiffer

end Statement

end Finder
