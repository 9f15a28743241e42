import Finder.Proofs.Statement.Combinations
import Finder.Proofs.Statement.Generation
import Mathlib.Algebra.Order.BigOperators.GroupWithZero.List
import Mathlib.Algebra.Order.Ring.Nat

namespace Finder

namespace Schema

variable (schema : Schema) (database : Database) (root : String)

-- The properties of an entity with those that it inherits.
def visible (entity : String) : List OwnedProperty :=
  (schema.properties? entity).getD []

-- A visible property is found under its own name.
theorem mem_visible_iff (entity : String) (found : OwnedProperty) :
    found ∈ schema.visible entity ↔ schema.property? entity found.property.name = some found := by
  cases hp : schema.properties? entity with
  | some properties =>
      rw [visible, hp, Option.getD_some]
      exact schema.mem_properties?_iff entity properties hp found
  | none =>
      have hlineage : schema.lineage? entity = none := Option.map_eq_none_iff.mp hp
      simp [visible, hp, Declarations.property?, hlineage]

theorem mem_visible_of_property? (entity name : String) (found : OwnedProperty)
    (h : schema.property? entity name = some found) : found ∈ schema.visible entity := by
  rw [mem_visible_iff, (schema.property?_eq_some entity name found h).1]
  exact h

def stored (entity : String) : Table :=
  database.stored ((schema.tableName? entity).getD "")

-- The entities that the root refers to, in the order of its properties.
def targets : List String :=
  (schema.visible root).filterMap fun found => found.property.type.target?

theorem mem_targets (found : OwnedProperty) (hm : found ∈ schema.visible root) (target : String)
    (ht : found.property.type = .entity target) : target ∈ schema.targets root :=
  List.mem_filterMap.mpr ⟨found, hm, (PropertyType.target?_eq_some_iff _ _).mpr ht⟩

-- The value that tells a row of the root from the others.
def identity (row : List Value) : Value :=
  (schema.stored database root).value row ((schema.idColumn? root).getD "")

-- The rows of another entity that point to a row of the root: they hold its identity in a column that
-- is named like the table of the root.
def pointing (target : String) (row : List Value) : List (List Value) :=
  (schema.stored database target).matching (schema.stored database root).name
    (schema.identity database root row)

-- Where none points to it, a row of nulls stands in.
def pointingOrNull (target : String) (row : List Value) : List (List Value) :=
  (schema.stored database target).matchingOrNull (schema.stored database root).name
    (schema.identity database root row)

def childCells (name target : String) (row : List Value) : Row :=
  (schema.visible target).filterMap fun found =>
    match found.property.type with
    | .scalar _ =>
        let column := found.property.columnName
        some (name ++ "_" ++ column, (schema.stored database target).value row column)
    | .entity _ => none

-- What a visible property can add to a result: its own value, or the values of a row that it leads to.
def cells (row : List Value) (found : OwnedProperty) : List Row :=
  let column := found.property.columnName
  match found.property.type with
  | .scalar _ => [[(column, (schema.stored database root).value row column)]]
  | .entity target =>
      (schema.pointingOrNull database root target row).map (schema.childCells database column target)

-- A row of the root has one result for each choice of what its properties add.
def results (row : List Value) : List Row :=
  (choices ((schema.visible root).map (schema.cells database root row))).map List.flatten

theorem length_cells (row : List Value) (found : OwnedProperty) :
    (schema.cells database root row found).length = (found.property.type.target?.map fun target =>
      max 1 (schema.pointing database root target row).length).getD 1 := by
  unfold cells
  cases found.property.type with
  | scalar kind => rfl
  | entity target =>
      simp only [List.length_map, pointingOrNull, Table.length_matchingOrNull,
        PropertyType.target?, Option.map_some, Option.getD_some]
      rfl

theorem length_results (row : List Value) :
    (schema.results database root row).length = ((schema.targets root).map fun target =>
      max 1 (schema.pointing database root target row).length).prod := by
  rw [results, List.length_map, length_choices, List.map_map, targets]
  induction schema.visible root with
  | nil => rfl
  | cons found rest ih =>
      rw [List.map_cons, List.prod_cons, ih, Function.comp_apply, length_cells]
      cases ht : found.property.type.target? <;> simp [ht]

theorem results_ne_nil (row : List Value) : schema.results database root row ≠ [] := by
  rw [← List.length_pos_iff, length_results]
  refine List.prod_pos fun size hs => ?_
  obtain ⟨target, _, rfl⟩ := List.mem_map.mp hs
  omega

-- Each result of a row shows the values that the row has itself.
theorem mem_of_mem_results (row : List Value) (result : Row)
    (h : result ∈ schema.results database root row) (found : OwnedProperty)
    (hm : found ∈ schema.visible root) (kind : Scalar) (ht : found.property.type = .scalar kind) :
    (found.property.columnName, (schema.stored database root).value row found.property.columnName) ∈
      result := by
  obtain ⟨chosen, hc, rfl⟩ := List.mem_map.mp h
  have hforall := List.forall₂_map_right_iff.mp ((mem_choices_iff _ _).mp hc)
  obtain ⟨own, ho, hown⟩ := exists_left_of_forall₂ hforall found hm
  obtain rfl := List.mem_singleton.mp (by simpa only [cells, ht] using hown)
  exact List.mem_flatten.mpr ⟨_, ho, List.mem_singleton_self _⟩

end Schema

namespace Statement

def rootJoin? (schema : Schema) (root table : String) (found : OwnedProperty) : Option Join :=
  join? schema.toDeclarations table ((schema.idColumn? root).getD "") found

-- The statement of a find, clause by clause.
structure Finds (schema : Schema) (root : String) (parameters : List Parameter)
    (selection : Selection) : Prop where
  mapped : ∀ target ∈ schema.targets root, schema.contains target
  table : schema.tableName? root = some selection.table
  outputs : selection.outputs =
    (schema.visible root).flatMap (Statement.outputs schema.toDeclarations selection.table)
  joins : selection.joins = (schema.visible root).filterMap (rootJoin? schema root selection.table)
  conditions : List.Forall₂ (Compares schema.toDeclarations root selection.table) parameters
    selection.conditions

theorem contains_target (schema : Schema) (root target : String) (h : target ∈ schema.targets root) :
    schema.contains target := by
  obtain ⟨found, hm, ht⟩ := List.mem_filterMap.mp h
  have hf := (schema.mem_visible_iff root found).mp hm
  exact schema.contains_of_refers root _ found hf target ((PropertyType.target?_eq_some_iff _ _).mp ht)

theorem finds_of_find (schema : Schema) (root : String) (parameters : Parameters)
    (statement : Statement) (h : find schema root parameters = .ok statement) :
    ∃ selection, statement = .select selection ∧
      Finds schema root parameters.entries selection := by
  obtain ⟨table, idColumn, properties, conditions, ht, hi, hp, hc, rfl⟩ :=
    (find_eq_ok_iff _ _ _ _).mp h
  refine ⟨_, rfl, ?_⟩
  exact {
    mapped := contains_target schema root
    table := ht
    outputs := by simp [Schema.visible, hp]
    joins := by
      simp only [Schema.visible, hp, Option.getD_some]
      exact List.filterMap_congr fun found _ => by simp [rootJoin?, hi]
    conditions := (conditions_eq_ok_iff _ _ _ _ _).mp hc }

variable {schema : Schema} {root : String} {parameters : List Parameter} {selection : Selection}
  {database : Database}

theorem Finds.contains_root (h : Finds schema root parameters selection) : schema.contains root := by
  obtain ⟨entity, hentity, _⟩ := Option.map_eq_some_iff.mp h.table
  exact (schema.contains_iff root).mpr ⟨entity, hentity⟩

theorem Finds.stored_eq (h : Finds schema root parameters selection) :
    database.stored selection.table = schema.stored database root := by
  rw [Schema.stored, h.table, Option.getD_some]

theorem Finds.name_eq (h : Finds schema root parameters selection) :
    (schema.stored database root).name = selection.table := by
  rw [← h.stored_eq, database.name_stored]

theorem Finds.exists_rootJoin (h : Finds schema root parameters selection) (found : OwnedProperty)
    (hm : found ∈ schema.visible root) (target : String)
    (ht : found.property.type = .entity target) :
    ∃ child, schema.tableName? target = some child ∧
      rootJoin? schema root selection.table found =
        some ⟨child, found.property.columnName, ⟨found.property.columnName, selection.table⟩,
          ⟨selection.table, (schema.idColumn? root).getD ""⟩⟩ := by
  have hmapped := h.mapped target (schema.mem_targets root found hm target ht)
  obtain ⟨child, _, _, hchild, _, _⟩ := schema.exists_names target hmapped
  exact ⟨child, hchild, by simp only [rootJoin?, join?, ht, hchild, Option.map_some]⟩

-- Each reference of the root is joined, since its target is an entity with a table.
theorem Finds.rootJoin?_of_entity (h : Finds schema root parameters selection)
    (database : Database) (found : OwnedProperty) (hm : found ∈ schema.visible root)
    (target : String) (ht : found.property.type = .entity target) :
    ∃ join, rootJoin? schema root selection.table found = some join ∧
      join.name = found.property.columnName ∧
      database.stored join.table = schema.stored database target ∧
      ∀ row, selection.partners database row join =
        schema.pointingOrNull database root target row := by
  obtain ⟨child, hchild, hjoin⟩ := h.exists_rootJoin found hm target ht
  have hstored : database.stored child = schema.stored database target := by
    rw [Schema.stored, hchild, Option.getD_some]
  refine ⟨_, hjoin, rfl, hstored, fun row => ?_⟩
  simp only [Selection.partners, Schema.pointingOrNull, Schema.identity, h.stored_eq, h.name_eq,
    hstored]

theorem Finds.starlike (h : Finds schema root parameters selection) : selection.Starlike where
  joins := by
    intro join hj
    rw [h.joins] at hj
    obtain ⟨found, _, hf⟩ := List.mem_filterMap.mp hj
    unfold rootJoin? join? at hf
    split at hf
    · cases hf
    · obtain ⟨childTable, _, rfl⟩ := Option.map_eq_some_iff.mp hf
      exact ⟨rfl, rfl⟩
  conditions := by
    intro condition hc
    obtain ⟨_, _, found, kind, _, _, rfl⟩ := exists_left_of_forall₂ h.conditions condition hc
    rfl

theorem Finds.source_mem_refs (h : Finds schema root parameters selection) (found : OwnedProperty)
    (hm : found ∈ schema.visible root) (output : Output)
    (ho : output ∈ Statement.outputs schema.toDeclarations selection.table found) :
    output.source ∈ selection.refs := by
  simp only [Selection.refs, List.mem_append]
  refine .inl (.inl (List.mem_map_of_mem ?_))
  rw [h.outputs]
  exact List.mem_flatMap.mpr ⟨found, hm, ho⟩

theorem Finds.scalar_shown_eq (h : Finds schema root parameters selection)
    (hs : selection.Served database) (found : OwnedProperty) (hm : found ∈ schema.visible root)
    (kind : Scalar) (ht : found.property.type = .scalar kind) (row : List Value)
    (chosen : List (List Value)) :
    (Statement.outputs schema.toDeclarations selection.table found).map
        (selection.shown database (row :: chosen)) =
      [(found.property.columnName,
        (schema.stored database root).value row found.property.columnName)] := by
  have hmem := h.source_mem_refs found hm
  simp only [Statement.outputs, ht, List.mem_singleton, forall_eq] at hmem ⊢
  have hcell := (hs.root_cell_eq _ hmem rfl).2 row chosen
  rw [List.map_singleton, Selection.shown, hcell, h.stored_eq]

-- The row for the join of a reference stands behind those of the joins before it.
theorem Finds.entity_shown_eq (h : Finds schema root parameters selection)
    (hs : selection.Served database) (found : OwnedProperty) (hm : found ∈ schema.visible root)
    (target : String) (ht : found.property.type = .entity target) (join : Join)
    (hname : join.name = found.property.columnName)
    (hstored : database.stored join.table = schema.stored database target) (position : Nat)
    (hj : selection.joins[position]? = some join) (combination : Combination) (partner : List Value)
    (hp : combination[position + 1]? = some partner) :
    (Statement.outputs schema.toDeclarations selection.table found).map
        (selection.shown database combination) =
      schema.childCells database found.property.columnName target partner := by
  have hsource : (selection.storedSources database)[position + 1]? =
      some (Selection.joinSource database join) := by
    rw [Selection.getElem?_storedSources, hj, Option.map_some]
  have hshown (output : Output)
      (ho : output ∈ Statement.outputs schema.toDeclarations selection.table found)
      (htable : output.source.table = found.property.columnName) :
      selection.shown database combination output =
        (output.name, (schema.stored database target).value partner output.source.column) := by
    have hcell := (hs.cell_eq output.source (h.source_mem_refs found hm output ho) (position + 1) _
      hsource (hname.trans htable.symm)).2 combination partner hp
    rw [Selection.shown, hcell, Selection.joinSource, hstored]
  simp only [Statement.outputs, ht, childOutputs] at hshown ⊢
  rw [List.map_filterMap, Schema.childCells]
  refine List.filterMap_congr fun other ho => ?_
  cases hother : other.property.type with
  | entity _ => rfl
  | scalar _ =>
      have hmem := hshown _ (List.mem_filterMap.mpr ⟨other, ho, by rw [hother]⟩) rfl
      exact congrArg some hmem

-- Induction on the properties that are left: `before` holds those whose rows are chosen already.
theorem Finds.shown_eq (h : Finds schema root parameters selection)
    (hs : selection.Served database) (row : List Value) (before after : List OwnedProperty)
    (hv : schema.visible root = before ++ after) (earlier : List (List Value))
    (hlength : earlier.length =
      (before.filterMap (rootJoin? schema root selection.table)).length) :
    (choices ((after.filterMap (rootJoin? schema root selection.table)).map
        (selection.partners database row))).map (fun chosen =>
          (after.flatMap (Statement.outputs schema.toDeclarations selection.table)).map
            (selection.shown database (row :: (earlier ++ chosen)))) =
      (choices (after.map (schema.cells database root row))).map List.flatten := by
  induction after generalizing before earlier with
  | nil => simp [choices]
  | cons found after ih =>
      have hm : found ∈ schema.visible root := by simp [hv]
      cases ht : found.property.type with
      | scalar kind =>
          have hjoin : rootJoin? schema root selection.table found = none := by
            simp only [rootJoin?, join?, ht]
          have hrest := ih (before ++ [found]) (by simp [hv]) earlier (by simp [hlength, hjoin])
          simp only [List.filterMap_cons, hjoin, List.flatMap_cons, List.map_append,
            h.scalar_shown_eq hs found hm kind ht, List.map_cons, Schema.cells, ht, choices,
            List.flatMap_nil, List.append_nil, List.map_map]
          have hown := congrArg (List.map ([(found.property.columnName,
            (schema.stored database root).value row found.property.columnName)] ++ ·)) hrest
          rw [List.map_map, List.map_map] at hown
          exact hown
      | entity target =>
          obtain ⟨join, hj, hname, hstored, hpartners⟩ :=
            h.rootJoin?_of_entity database found hm target ht
          have hposition : selection.joins[earlier.length]? = some join := by
            simp [h.joins, hv, hlength, hj]
          simp only [List.filterMap_cons, hj, List.map_cons, Schema.cells, ht, choices,
            List.flatMap_map, hpartners]
          rw [List.map_flatMap, List.map_flatMap]
          refine List.flatMap_congr fun partner _ => ?_
          have hrest := ih (before ++ [found]) (by simp [hv]) (earlier ++ [partner])
            (by simp [hlength, hj])
          have hchild (chosen : List (List Value)) := h.entity_shown_eq hs found hm target ht join
            hname hstored earlier.length hposition (row :: (earlier ++ partner :: chosen)) partner
            (by simp)
          have hown := congrArg (List.map
            (schema.childCells database found.property.columnName target partner ++ ·)) hrest
          simp only [List.map_map, Function.comp_def, List.append_assoc, List.singleton_append]
            at hown
          simp only [List.map_map, Function.comp_def, List.flatMap_cons, List.map_append, hchild,
            List.flatten_cons]
          exact hown

theorem Finds.rows_eq (h : Finds schema root parameters selection)
    (hs : selection.Served database) (hne : selection.outputs ≠ [])
    (arguments : List (String × Value)) :
    selection.rows database arguments = .ok (((schema.stored database root).rows.filter
      (selection.keeps database arguments)).flatMap (schema.results database root)) := by
  rw [hs.rows_eq h.starlike hne arguments, h.stored_eq]
  refine congrArg Except.ok (List.flatMap_congr fun row _ => ?_)
  have hshown := h.shown_eq hs row [] (schema.visible root) rfl [] rfl
  rw [← h.joins, ← h.outputs] at hshown
  exact hshown

-- A row is kept where the column of each compared property has the value given for it.
theorem Finds.keeps_eq (h : Finds schema root parameters selection)
    (arguments : List (String × Value)) (row : List Value) :
    selection.keeps database arguments row = parameters.all fun parameter =>
      (schema.property? root parameter.name).any fun found =>
        ((schema.stored database root).value row found.property.columnName).equals
          (Selection.argument arguments parameter) := by
  have hforall := h.conditions
  rw [Selection.keeps, h.stored_eq]
  clear h
  generalize selection.conditions = conditions at hforall ⊢
  induction hforall with
  | nil => rfl
  | cons hfirst _ ih =>
      obtain ⟨found, kind, hf, _, rfl⟩ := hfirst
      rw [List.all_cons, List.all_cons, ih, hf, Option.any_some]

-- A compared property is visible, and its column is selected.
theorem Finds.outputs_ne (h : Finds schema root parameters selection) (hne : parameters ≠ []) :
    selection.outputs ≠ [] := by
  obtain ⟨parameter, rest, rfl⟩ := List.exists_cons_of_ne_nil hne
  obtain ⟨condition, _, ⟨found, kind, hf, ht, _⟩, _, _⟩ :=
    List.forall₂_cons_left_iff.mp h.conditions
  have hm := schema.mem_visible_of_property? root parameter.name found hf
  rw [h.outputs]
  intro he
  have := List.flatMap_eq_nil_iff.mp he found hm
  simp [Statement.outputs, ht] at this

end Statement

end Finder
