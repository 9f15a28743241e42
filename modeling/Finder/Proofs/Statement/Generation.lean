import Finder.Proofs.Schema.Visible
import Finder.Statement
import Mathlib.Data.List.Forall2

namespace Finder

namespace Schema

-- Every entity has a table, a column that identifies its rows, and a list of properties.
theorem exists_names (schema : Schema) (root : String) (h : schema.contains root) :
    ∃ table idColumn properties, schema.tableName? root = some table ∧
      schema.idColumn? root = some idColumn ∧ schema.properties? root = some properties := by
  obtain ⟨entity, he⟩ := (schema.contains_iff root).mp h
  obtain ⟨hm, rfl⟩ := schema.entity?_eq_some root entity he
  obtain ⟨id, hid⟩ := schema.exists_id entity hm
  refine ⟨entity.tableName, id.property.columnName,
    (schema.lineageOf entity).reverse.foldl Declarations.placeAll [], ?_, ?_, ?_⟩
  · simp [Declarations.tableName?, he]
  · simp [Declarations.idColumn?, he, hid]
  · simp [Declarations.properties?, Declarations.lineage?, he]

end Schema

-- Conditions stand behind all else in the text of a statement.
theorem Selection.text_of_conditions (selection : Selection) (h : selection.conditions ≠ []) :
    selection.text = { selection with conditions := [] : Selection }.text ++ " WHERE " ++
      " AND ".intercalate (selection.conditions.map Condition.text) := by
  unfold text
  rw [if_neg h, if_pos rfl, String.append_empty, ← String.append_assoc]

namespace Statement

-- A condition compares the column of the scalar property that its parameter is named like.
def Compares (declared : Declarations) (root table : String) (parameter : Parameter)
    (condition : Condition) : Prop :=
  ∃ found kind, declared.property? root parameter.name = some found ∧
    found.property.type = .scalar kind ∧
    condition = ⟨⟨table, found.property.columnName⟩, parameter⟩

theorem conditions_eq_ok_iff (declared : Declarations) (root table : String)
    (parameters : List Parameter) (conditions : List Condition) :
    Statement.conditions declared root table parameters = .ok conditions ↔
      List.Forall₂ (Compares declared root table) parameters conditions := by
  induction parameters generalizing conditions with
  | nil => simp [Statement.conditions, eq_comm]
  | cons parameter rest ih =>
      simp only [Statement.conditions, List.forall₂_cons_left_iff, ← ih]
      cases hp : declared.property? root parameter.name with
      | none => simp [Compares, hp]
      | some found =>
          cases ht : found.property.type with
          | entity target => simp [Compares, hp, ht]
          | scalar kind =>
              cases Statement.conditions declared root table rest with
              | error violation => simp [ht]
              | ok later => simp [Compares, hp, ht, eq_comm]

theorem exists_conditions (declared : Declarations) (root table : String)
    (parameters : List Parameter) (h : ∀ parameter ∈ parameters, ∃ found kind,
      declared.property? root parameter.name = some found ∧ found.property.type = .scalar kind) :
    ∃ conditions, Statement.conditions declared root table parameters = .ok conditions := by
  simp only [conditions_eq_ok_iff]
  induction parameters with
  | nil => exact ⟨[], .nil⟩
  | cons parameter rest ih =>
      obtain ⟨found, kind, hf, ht⟩ := h parameter List.mem_cons_self
      obtain ⟨later, hl⟩ := ih fun other ho => h other (List.mem_cons_of_mem _ ho)
      exact ⟨_, .cons ⟨found, kind, hf, ht, rfl⟩ hl⟩

-- The join of a property, where it leads to an entity that has a table.
def join? (declared : Declarations) (table idColumn : String) (found : OwnedProperty) :
    Option Join :=
  match found.property.type with
  | .scalar _ => none
  | .entity child =>
      (declared.tableName? child).map fun childTable =>
        let name := found.property.columnName
        ⟨childTable, name, ⟨name, table⟩, ⟨table, idColumn⟩⟩

theorem joins_eq (declared : Declarations) (table idColumn : String)
    (properties : List OwnedProperty) (h : ∀ found ∈ properties, ∀ target,
      found.property.type = .entity target → declared.contains target) :
    Statement.joins declared table idColumn properties =
      .ok (properties.filterMap (join? declared table idColumn)) := by
  induction properties with
  | nil => rfl
  | cons found rest ih =>
      rw [List.forall_mem_cons] at h
      rw [Statement.joins, ih h.2, List.filterMap_cons, join?]
      cases ht : found.property.type with
      | scalar kind => rfl
      | entity target =>
          obtain ⟨entity, hentity⟩ := Option.isSome_iff_exists.mp (h.1 target ht)
          have htable : declared.tableName? target = some entity.tableName := by
            rw [Declarations.tableName?, hentity, Option.map_some]
          simp only [htable, Option.map_some]

-- In a schema all references lead to entities, so that only the conditions can fail.
theorem find_of_names (schema : Schema) (root : String) (parameters : Parameters)
    (table idColumn : String) (properties : List OwnedProperty)
    (ht : schema.tableName? root = some table) (hi : schema.idColumn? root = some idColumn)
    (hp : schema.properties? root = some properties) :
    find schema root parameters =
      (Statement.conditions schema.toDeclarations root table parameters.entries).map
        fun conditions => .select {
          outputs := properties.flatMap (outputs schema.toDeclarations table)
          table
          joins := properties.filterMap (join? schema.toDeclarations table idColumn)
          conditions } := by
  have htargets : ∀ found ∈ properties, ∀ target, found.property.type = .entity target →
      schema.contains target := by
    intro found hm target htype
    have hfound := (schema.mem_properties?_iff root properties hp found).mp hm
    exact schema.contains_of_refers root _ found hfound target htype
  simp only [find, ht, hi, hp, joins_eq _ table idColumn properties htargets]
  cases Statement.conditions schema.toDeclarations root table parameters.entries <;> rfl

theorem find_of_unknown (schema : Schema) (root : String) (parameters : Parameters)
    (h : ¬schema.contains root) : find schema root parameters = .error (.unknownRoot root) := by
  have ht : schema.tableName? root = none := by
    rw [Declarations.contains, Option.not_isSome_iff_eq_none] at h
    rw [Declarations.tableName?, h, Option.map_none]
  simp only [find, ht]

theorem find_eq_ok_iff (schema : Schema) (root : String) (parameters : Parameters)
    (statement : Statement) :
    find schema root parameters = .ok statement ↔ ∃ table idColumn properties conditions,
      schema.tableName? root = some table ∧ schema.idColumn? root = some idColumn ∧
        schema.properties? root = some properties ∧
        Statement.conditions schema.toDeclarations root table parameters.entries = .ok conditions ∧
        statement = .select {
          outputs := properties.flatMap (outputs schema.toDeclarations table)
          table
          joins := properties.filterMap (join? schema.toDeclarations table idColumn)
          conditions } := by
  constructor
  · intro h
    have hroot : schema.contains root := by
      by_contra hunknown
      rw [find_of_unknown schema root parameters hunknown] at h
      cases h
    obtain ⟨table, idColumn, properties, ht, hi, hp⟩ := schema.exists_names root hroot
    rw [find_of_names schema root parameters table idColumn properties ht hi hp] at h
    cases hc : Statement.conditions schema.toDeclarations root table parameters.entries with
    | error violation =>
        rw [hc] at h
        cases h
    | ok conditions =>
        rw [hc] at h
        exact ⟨table, idColumn, properties, conditions, ht, hi, hp, hc, (Except.ok.inj h).symm⟩
  · rintro ⟨table, idColumn, properties, conditions, ht, hi, hp, hc, rfl⟩
    rw [find_of_names schema root parameters table idColumn properties ht hi hp, hc]
    rfl

-- A find without parameters is the same statement without conditions.
theorem find_empty (schema : Schema) (root : String) (parameters : Parameters)
    (selection : Selection) (h : find schema root parameters = .ok (.select selection)) :
    find schema root .empty = .ok (.select { selection with conditions := [] }) := by
  obtain ⟨table, idColumn, properties, conditions, ht, hi, hp, _, hs⟩ :=
    (find_eq_ok_iff _ _ _ _).mp h
  obtain rfl := Statement.select.inj hs
  exact (find_eq_ok_iff _ _ _ _).mpr ⟨table, idColumn, properties, [], ht, hi, hp, rfl, rfl⟩

theorem countAll_eq_ok_iff (schema : Schema) (root : String) (statement : Statement) :
    countAll schema root = .ok statement ↔
      ∃ table, schema.tableName? root = some table ∧ statement = .count table := by
  unfold countAll
  cases schema.tableName? root <;> simp [eq_comm]

end Statement

end Finder
