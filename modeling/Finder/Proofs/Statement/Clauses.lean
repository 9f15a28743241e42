import Finder.Proofs.Schema.WellFormed
import Finder.Proofs.Statement.Results

namespace Finder

-- What a declaration names itself goes before the name that it would have otherwise.
theorem Property.columnName_eq_iff (property : Property) (column : String) :
    property.columnName = column ↔ property.column = some column ∨
      property.column = none ∧ Text.snakeCase property.name = column :=
  Option.getD_eq_iff

theorem Entity.tableName_eq_iff (entity : Entity) (table : String) :
    entity.tableName = table ↔ entity.table = some table ∨
      entity.table = none ∧ Text.snakeCase entity.name = table :=
  Option.getD_eq_iff

namespace Schema

-- The visible properties of an entity that its table has a column for.
def scalars (schema : Schema) (entity : String) : List OwnedProperty :=
  (schema.visible entity).filter fun found => found.property.type.target?.isNone

-- The others lead to an entity each.
def references (schema : Schema) (entity : String) : List OwnedProperty :=
  (schema.visible entity).filter fun found => found.property.type.target?.isSome

theorem mem_scalars_iff (schema : Schema) (entity : String) (found : OwnedProperty) :
    found ∈ schema.scalars entity ↔
      found ∈ schema.visible entity ∧ ∃ kind, found.property.type = .scalar kind := by
  rw [scalars, List.mem_filter]
  cases found.property.type <;> simp [PropertyType.target?]

theorem mem_references_iff (schema : Schema) (entity : String) (found : OwnedProperty) :
    found ∈ schema.references entity ↔
      found ∈ schema.visible entity ∧ ∃ target, found.property.type = .entity target := by
  rw [references, List.mem_filter]
  cases found.property.type <;> simp [PropertyType.target?]

theorem property?_eq_some_iff (schema : Schema) (entity name : String) (found : OwnedProperty) :
    schema.property? entity name = some found ↔
      found ∈ schema.visible entity ∧ found.property.name = name := by
  constructor
  · intro h
    exact ⟨schema.mem_visible_of_property? entity name found h,
      (schema.property?_eq_some entity name found h).1⟩
  · rintro ⟨hm, rfl⟩
    exact (schema.mem_visible_iff entity found).mp hm

theorem property?_eq_none_iff (schema : Schema) (entity name : String) :
    schema.property? entity name = none ↔
      ∀ found ∈ schema.visible entity, found.property.name ≠ name := by
  simp only [Option.eq_none_iff_forall_ne_some, ne_eq, property?_eq_some_iff, not_and]

theorem tableName?_eq_some_iff (schema : Schema) (name table : String) :
    schema.tableName? name = some table ↔
      ∃ entity ∈ schema.entities, entity.name = name ∧ entity.tableName = table := by
  simp only [Declarations.tableName?, Option.map_eq_some_iff,
    Declarations.entity?_eq_some_iff schema.names_nodup, and_assoc]

-- The rows of an entity are told apart by the column of the property that the entity names for it.
-- This property may be an inherited one, and its column may have a name of its own.
theorem idColumn?_eq_some_iff (schema : Schema) (name column : String) :
    schema.idColumn? name = some column ↔ ∃ entity ∈ schema.entities, entity.name = name ∧
      ∃ id ∈ schema.visible name, id.property.name = entity.id ∧
        id.property.columnName = column := by
  simp only [Declarations.idColumn?, Option.bind_eq_some_iff, Option.map_eq_some_iff,
    Declarations.entity?_eq_some_iff schema.names_nodup, property?_eq_some_iff, and_assoc]

end Schema

theorem Selection.text_congr (first second : Selection) (houtputs : first.outputs = second.outputs)
    (htable : first.table = second.table) (hjoins : first.joins = second.joins)
    (hconditions : first.conditions.map Condition.text = second.conditions.map Condition.text) :
    first.text = second.text := by
  have hnone : first.conditions = [] ↔ second.conditions = [] := by
    rw [← List.map_eq_nil_iff (f := Condition.text), hconditions, List.map_eq_nil_iff]
  simp only [text, houtputs, htable, hjoins, hconditions, hnone]

namespace Statement

-- Why the root has no column to compare under a name. The type of a parameter plays no part in it.
inductive Offends (schema : Schema) (root name : String) : Violation → Prop
  | unseen (h : ∀ found ∈ schema.visible root, found.property.name ≠ name) :
      Offends schema root name (.unresolved name root)
  | reference (found : OwnedProperty) (hm : found ∈ schema.references root)
      (hname : found.property.name = name) : Offends schema root name (.entityValued name)

-- Why no find is made: the root is not known, or else the first of the parameters that offends.
inductive Fails (schema : Schema) (root : String) (parameters : List Parameter) : Violation → Prop
  | root (h : ¬schema.contains root) : Fails schema root parameters (.unknownRoot root)
  | parameter (hroot : schema.contains root) (parameter : Parameter) (violation : Violation)
      (hfirst : IsFirst (fun other => ∃ why, Offends schema root other.name why) parameters parameter)
      (hwhy : Offends schema root parameter.name violation) :
      Fails schema root parameters violation

-- What stands in the select list for a visible property of the root: its own column, or the columns of
-- the entity that it leads to, and of no entity behind that.
inductive Shows (schema : Schema) (table : String) (found : OwnedProperty) : List Output → Prop
  | own (kind : Scalar) (ht : found.property.type = .scalar kind) :
      Shows schema table found
        [⟨⟨table, found.property.columnName⟩, found.property.columnName⟩]
  | child (target : String) (ht : found.property.type = .entity target)
      (hknown : schema.contains target) :
      Shows schema table found <| (schema.scalars target).map fun other =>
        ⟨⟨found.property.columnName, other.property.columnName⟩,
          found.property.columnName ++ "_" ++ other.property.columnName⟩

-- The join that a reference of the root asks for.
def Joins (schema : Schema) (root table : String) (found : OwnedProperty) (join : Join) : Prop :=
  ∃ target child idColumn, found.property.type = .entity target ∧
    schema.tableName? target = some child ∧ schema.idColumn? root = some idColumn ∧
      join = ⟨child, found.property.columnName, ⟨found.property.columnName, table⟩,
        ⟨table, idColumn⟩⟩

-- A find, clause by clause. The properties come in the order in which the root lists them.
structure Clauses (schema : Schema) (root : String) (parameters : List Parameter)
    (selection : Selection) : Prop where
  listed : schema.properties? root = some (schema.visible root)
  table : schema.tableName? root = some selection.table
  outputs : ∃ blocks, List.Forall₂ (Shows schema selection.table) (schema.visible root) blocks ∧
    selection.outputs = blocks.flatten
  joins : List.Forall₂ (Joins schema root selection.table) (schema.references root) selection.joins
  conditions : List.Forall₂ (fun parameter condition => ∃ found ∈ schema.scalars root,
    found.property.name = parameter.name ∧
      condition = ⟨⟨selection.table, found.property.columnName⟩, parameter⟩)
    parameters selection.conditions
  selected : ∀ condition ∈ selection.conditions, condition.column.table = selection.table ∧
    ⟨condition.column, condition.column.column⟩ ∈ selection.outputs
  outputs_ne : selection.conditions ≠ [] → selection.outputs ≠ []

-- What is written into the select list for a visible property of the root.
inductive ShowsText (schema : Schema) (table : String) (found : OwnedProperty) : List String → Prop
  | own (kind : Scalar) (ht : found.property.type = .scalar kind) :
      ShowsText schema table found
        [table ++ "." ++ found.property.columnName ++ " AS " ++ found.property.columnName]
  | child (target : String) (ht : found.property.type = .entity target) :
      ShowsText schema table found <| (schema.scalars target).map fun other =>
        found.property.columnName ++ "." ++ other.property.columnName ++ " AS " ++
          (found.property.columnName ++ "_" ++ other.property.columnName)

-- What is written behind the root for a reference. The table of the entity that it leads to is joined
-- under the name of the reference's column.
def JoinsText (schema : Schema) (table idColumn : String) (found : OwnedProperty)
    (text : String) : Prop :=
  ∃ child ∈ schema.entities, found.property.type = .entity child.name ∧
    text = " LEFT OUTER JOIN " ++ child.tableName ++ " AS " ++ found.property.columnName ++ " ON " ++
      (found.property.columnName ++ "." ++ table) ++ " = " ++ (table ++ "." ++ idColumn)

-- What is written for the parameter of a name.
def ComparesText (schema : Schema) (root table name text : String) : Prop :=
  ∃ found ∈ schema.scalars root, found.property.name = name ∧
    text = table ++ "." ++ found.property.columnName ++ " = " ++ (":" ++ name)

section

variable {schema : Schema} {root : String}

theorem offends_iff (name : String) (violation : Violation) :
    Offends schema root name violation ↔
      schema.property? root name = none ∧ violation = .unresolved name root ∨
        ∃ found target, schema.property? root name = some found ∧
          found.property.type = .entity target ∧ violation = .entityValued name := by
  constructor
  · intro h
    cases h with
    | unseen hunseen => exact .inl ⟨(schema.property?_eq_none_iff root name).mpr hunseen, rfl⟩
    | reference found hm hname =>
        obtain ⟨hvisible, target, ht⟩ := (schema.mem_references_iff root found).mp hm
        have hfound := (schema.property?_eq_some_iff root name found).mpr ⟨hvisible, hname⟩
        exact .inr ⟨found, target, hfound, ht, rfl⟩
  · rintro (⟨hnone, rfl⟩ | ⟨found, target, hfound, ht, rfl⟩)
    · exact .unseen ((schema.property?_eq_none_iff root name).mp hnone)
    · obtain ⟨hvisible, hname⟩ := (schema.property?_eq_some_iff root name found).mp hfound
      exact .reference found ((schema.mem_references_iff root found).mpr ⟨hvisible, target, ht⟩) hname

-- Induction on the parameters: one that offends hides all that come after it.
theorem conditions_eq_error_iff (table : String) (parameters : List Parameter)
    (violation : Violation) :
    Statement.conditions schema.toDeclarations root table parameters = .error violation ↔
      ∃ parameter,
        IsFirst (fun other => ∃ why, Offends schema root other.name why) parameters parameter ∧
          Offends schema root parameter.name violation := by
  induction parameters with
  | nil => simp [Statement.conditions, not_isFirst_nil]
  | cons parameter rest ih =>
      simp only [Statement.conditions, isFirst_cons]
      cases hp : schema.property? root parameter.name with
      | none =>
          have hwhy (why : Violation) : Offends schema root parameter.name why ↔
              why = .unresolved parameter.name root := by
            simp [offends_iff, hp]
          simp [hwhy, eq_comm]
      | some found =>
          cases ht : found.property.type with
          | entity target =>
              have hwhy (why : Violation) : Offends schema root parameter.name why ↔
                  why = .entityValued parameter.name := by
                simp [offends_iff, hp, ht]
              simp [hwhy, ht, eq_comm]
          | scalar kind =>
              have hpasses : ¬∃ why, Offends schema root parameter.name why := by
                simp [offends_iff, hp, ht]
              simp only [ht, hpasses, not_false_eq_true, false_and, true_and, false_or, ← ih]
              cases Statement.conditions schema.toDeclarations root table rest <;> simp

theorem find_eq_error_iff (parameters : Parameters) (violation : Violation) :
    find schema root parameters = .error violation ↔
      Fails schema root parameters.entries violation := by
  by_cases hroot : schema.contains root
  · obtain ⟨table, idColumn, properties, htable, hid, hproperties⟩ := schema.exists_names root hroot
    have hfind : find schema root parameters = .error violation ↔
        Statement.conditions schema.toDeclarations root table parameters.entries =
          .error violation := by
      rw [find_of_names schema root parameters table idColumn properties htable hid hproperties]
      cases Statement.conditions schema.toDeclarations root table parameters.entries <;>
        simp [Except.map]
    rw [hfind, conditions_eq_error_iff]
    constructor
    · rintro ⟨parameter, hfirst, hwhy⟩
      exact .parameter hroot parameter violation hfirst hwhy
    · intro h
      cases h with
      | root hunknown => exact absurd hroot hunknown
      | parameter _ parameter _ hfirst hwhy => exact ⟨parameter, hfirst, hwhy⟩
  · rw [find_of_unknown schema root parameters hroot]
    constructor
    · intro h
      obtain rfl := Except.error.inj h
      exact .root hroot
    · intro h
      cases h with
      | root _ => rfl
      | parameter hknown _ _ _ _ => exact absurd hknown hroot

theorem childOutputs_eq (name target : String) :
    childOutputs schema.toDeclarations name target = (schema.scalars target).map fun other =>
      ⟨⟨name, other.property.columnName⟩, name ++ "_" ++ other.property.columnName⟩ := by
  rw [childOutputs, ← Schema.visible, Schema.scalars]
  induction schema.visible target with
  | nil => rfl
  | cons other rest ih =>
      rw [List.filterMap_cons, List.filter_cons, ih]
      cases other.property.type <;> simp [PropertyType.target?]

variable {parameters : List Parameter} {selection : Selection}

theorem Finds.shows (h : Finds schema root parameters selection) (found : OwnedProperty)
    (hm : found ∈ schema.visible root) :
    Shows schema selection.table found
      (Statement.outputs schema.toDeclarations selection.table found) := by
  cases ht : found.property.type with
  | scalar kind =>
      simp only [Statement.outputs, ht]
      exact .own kind ht
  | entity target =>
      have hknown := h.mapped target (schema.mem_targets root found hm target ht)
      simp only [Statement.outputs, ht, childOutputs_eq]
      exact .child target ht hknown

theorem Finds.joins_references (h : Finds schema root parameters selection) :
    List.Forall₂ (Joins schema root selection.table) (schema.references root) selection.joins := by
  obtain ⟨_, idColumn, _, _, hid, _⟩ := schema.exists_names root h.contains_root
  rw [h.joins, Schema.references]
  refine forall₂_filter_filterMap _ _ _ fun found hm => ?_
  cases ht : found.property.type with
  | scalar kind => simp [PropertyType.target?, rootJoin?, join?, ht]
  | entity target =>
      obtain ⟨child, hchild, hjoin⟩ := h.exists_rootJoin found hm target ht
      rw [hid, Option.getD_some] at hjoin
      have hjoins : Joins schema root selection.table found _ :=
        ⟨target, child, idColumn, ht, hchild, hid, rfl⟩
      simp [PropertyType.target?, hjoin, hjoins]

theorem Finds.output_of_scalar (h : Finds schema root parameters selection) (found : OwnedProperty)
    (hm : found ∈ schema.scalars root) :
    ⟨⟨selection.table, found.property.columnName⟩, found.property.columnName⟩ ∈
      selection.outputs := by
  obtain ⟨hvisible, kind, ht⟩ := (schema.mem_scalars_iff root found).mp hm
  rw [h.outputs]
  refine List.mem_flatMap.mpr ⟨found, hvisible, ?_⟩
  simp only [Statement.outputs, ht, List.mem_singleton]

theorem Finds.conditions_scalars (h : Finds schema root parameters selection) :
    List.Forall₂ (fun parameter condition => ∃ found ∈ schema.scalars root,
      found.property.name = parameter.name ∧
        condition = ⟨⟨selection.table, found.property.columnName⟩, parameter⟩)
      parameters selection.conditions := by
  refine h.conditions.imp ?_
  rintro parameter condition ⟨found, kind, hfound, ht, hcondition⟩
  obtain ⟨hvisible, hname⟩ := (schema.property?_eq_some_iff root _ found).mp hfound
  exact ⟨found, (schema.mem_scalars_iff root found).mpr ⟨hvisible, kind, ht⟩, hname, hcondition⟩

theorem Finds.clauses (h : Finds schema root parameters selection) :
    Clauses schema root parameters selection := by
  have hconditions := h.conditions_scalars
  have hselected : ∀ condition ∈ selection.conditions, condition.column.table = selection.table ∧
      ⟨condition.column, condition.column.column⟩ ∈ selection.outputs := by
    intro condition hc
    obtain ⟨_, _, found, hm, _, rfl⟩ := exists_left_of_forall₂ hconditions condition hc
    exact ⟨rfl, h.output_of_scalar found hm⟩
  constructor
  case listed =>
    obtain ⟨_, _, properties, _, _, hproperties⟩ := schema.exists_names root h.contains_root
    rw [Schema.visible, hproperties, Option.getD_some]
  case table => exact h.table
  case outputs =>
    refine ⟨(schema.visible root).map (Statement.outputs schema.toDeclarations selection.table),
      ?_, ?_⟩
    · rw [List.forall₂_map_right_iff, List.forall₂_same]
      exact h.shows
    · rw [h.outputs, List.flatMap_def]
  case joins => exact h.joins_references
  case conditions => exact hconditions
  case selected => exact hselected
  case outputs_ne =>
    intro hne
    obtain ⟨condition, hc⟩ := List.exists_mem_of_ne_nil _ hne
    exact List.ne_nil_of_mem (hselected condition hc).2

-- Parameters of the same names give the same conditions, but for the types that these carry along.
theorem conditions_text_eq (table : String) (first second : List Parameter)
    (h : first.map Parameter.name = second.map Parameter.name) :
    (Statement.conditions schema.toDeclarations root table first).map (List.map Condition.text) =
      (Statement.conditions schema.toDeclarations root table second).map
        (List.map Condition.text) := by
  induction first generalizing second with
  | nil =>
      obtain rfl := List.map_eq_nil_iff.mp h.symm
      rfl
  | cons parameter rest ih =>
      obtain ⟨other, later, rfl, hname, hrest⟩ := List.map_eq_cons_iff.mp h.symm
      have hlater := ih later hrest.symm
      simp only [Statement.conditions, hname]
      cases schema.property? root parameter.name with
      | none => rfl
      | some found =>
          cases ht : found.property.type with
          | entity target => simp [ht]
          | scalar kind =>
              simp only [ht]
              revert hlater
              cases Statement.conditions schema.toDeclarations root table rest <;>
                cases Statement.conditions schema.toDeclarations root table later <;>
                simp [Except.map, Condition.text, Parameter.reference, hname]

-- A find is made where the root has a column of its own for each name.
theorem exists_find_iff (parameters : Parameters) :
    (∃ statement, find schema root parameters = .ok statement) ↔ schema.contains root ∧
      ∀ parameter ∈ parameters.entries, ∃ found ∈ schema.scalars root,
        found.property.name = parameter.name := by
  constructor
  · rintro ⟨statement, hfind⟩
    obtain ⟨selection, _, hfinds⟩ := finds_of_find schema root parameters statement hfind
    refine ⟨hfinds.contains_root, fun parameter hparameter => ?_⟩
    obtain ⟨condition, _, found, hm, hname, _⟩ :=
      exists_left_of_forall₂ hfinds.conditions_scalars.flip parameter hparameter
    exact ⟨found, hm, hname⟩
  · rintro ⟨hroot, hnames⟩
    obtain ⟨table, idColumn, properties, htable, hid, hproperties⟩ := schema.exists_names root hroot
    obtain ⟨conditions, hconditions⟩ := exists_conditions schema.toDeclarations root table
      parameters.entries fun parameter hparameter => by
        obtain ⟨found, hm, hname⟩ := hnames parameter hparameter
        obtain ⟨hvisible, kind, ht⟩ := (schema.mem_scalars_iff root found).mp hm
        exact ⟨found, kind, (schema.property?_eq_some_iff root _ found).mpr ⟨hvisible, hname⟩, ht⟩
    exact ⟨_, (find_eq_ok_iff _ _ _ _).mpr ⟨table, idColumn, properties, conditions, htable, hid,
      hproperties, hconditions, rfl⟩⟩

theorem find_text_eq (first second : Parameters) (h : first.names = second.names) :
    (find schema root first).map Statement.text = (find schema root second).map Statement.text := by
  by_cases hroot : schema.contains root
  · obtain ⟨table, idColumn, properties, htable, hid, hproperties⟩ := schema.exists_names root hroot
    have htext : (Statement.conditions schema.toDeclarations root table first.entries).map
          (List.map Condition.text) =
        (Statement.conditions schema.toDeclarations root table second.entries).map
          (List.map Condition.text) := conditions_text_eq table first.entries second.entries h
    rw [find_of_names schema root first table idColumn properties htable hid hproperties,
      find_of_names schema root second table idColumn properties htable hid hproperties]
    revert htext
    cases Statement.conditions schema.toDeclarations root table first.entries <;>
      cases Statement.conditions schema.toDeclarations root table second.entries <;>
      simp only [Except.map, Except.error.injEq, Except.ok.injEq, reduceCtorEq, imp_self]
    exact fun htext => Selection.text_congr _ _ rfl rfl rfl htext
  · rw [find_of_unknown schema root first hroot, find_of_unknown schema root second hroot]

end

-- A find is made or refused by the names of its parameters alone, and the first of these that the root
-- has no column for is the one that is reported. What is made shows the columns of the root and of the
-- entities next to it, joins each of these once, and compares columns that it shows.
theorem find_exact (schema : Schema) (root : String) (parameters : Parameters) :
    ((∃ statement, find schema root parameters = .ok statement) ↔ schema.contains root ∧
      ∀ parameter ∈ parameters.entries, ∃ found ∈ schema.scalars root,
        found.property.name = parameter.name) ∧
    (∀ violation, find schema root parameters = .error violation ↔
      Fails schema root parameters.entries violation) ∧
    (∀ statement, find schema root parameters = .ok statement →
      ∃ selection, statement = .select selection ∧
        Clauses schema root parameters.entries selection) ∧
    ∀ other : Parameters, other.names = parameters.names →
      (find schema root other).map Statement.text =
        (find schema root parameters).map Statement.text := by
  refine ⟨exists_find_iff parameters, find_eq_error_iff parameters, ?_, ?_⟩
  · intro statement hfind
    obtain ⟨selection, hselection, hfinds⟩ := finds_of_find schema root parameters statement hfind
    exact ⟨selection, hselection, hfinds.clauses⟩
  · intro other hnames
    exact find_text_eq other parameters hnames

theorem Shows.text {schema : Schema} {table : String} {found : OwnedProperty}
    {outputs : List Output} (h : Shows schema table found outputs) :
    ShowsText schema table found (outputs.map Output.text) := by
  cases h with
  | own kind ht => exact .own kind ht
  | child target ht _ =>
      rw [List.map_map]
      exact .child target ht

theorem Joins.text {schema : Schema} {root table idColumn : String} {found : OwnedProperty}
    {join : Join} (hid : schema.idColumn? root = some idColumn)
    (h : Joins schema root table found join) :
    JoinsText schema table idColumn found join.text := by
  obtain ⟨target, childTable, _, ht, hchild, hcolumn, rfl⟩ := h
  obtain rfl := Option.some.inj (hid.symm.trans hcolumn)
  obtain ⟨child, hm, rfl, rfl⟩ := (schema.tableName?_eq_some_iff target childTable).mp hchild
  exact ⟨child, hm, ht, rfl⟩

-- The text of a find, read off the schema. Each of its parts comes in the order in which the root lists
-- its properties, and the conditions in the order of the parameters.
theorem find_text (schema : Schema) (entity : Entity) (id : OwnedProperty) (parameters : Parameters)
    (statement : Statement) (hentity : entity ∈ schema.entities)
    (hid : id ∈ schema.visible entity.name) (hname : id.property.name = entity.id)
    (hfind : find schema entity.name parameters = .ok statement) :
    ∃ shown joined compared,
      List.Forall₂ (ShowsText schema entity.tableName) (schema.visible entity.name) shown ∧
      List.Forall₂ (JoinsText schema entity.tableName id.property.columnName)
        (schema.references entity.name) joined ∧
      List.Forall₂ (ComparesText schema entity.name entity.tableName) parameters.names compared ∧
      statement.text = "SELECT " ++ ", ".intercalate shown.flatten ++ " FROM " ++ entity.tableName ++
        "".intercalate joined ++
          if compared = [] then "" else " WHERE " ++ " AND ".intercalate compared := by
  obtain ⟨selection, rfl, hfinds⟩ := finds_of_find schema entity.name parameters statement hfind
  have htable : selection.table = entity.tableName := by
    have hfound := (schema.tableName?_eq_some_iff _ _).mpr ⟨entity, hentity, rfl, rfl⟩
    exact Option.some.inj (hfinds.table.symm.trans hfound)
  have hcolumn := (schema.idColumn?_eq_some_iff entity.name id.property.columnName).mpr
    ⟨entity, hentity, rfl, id, hid, hname, rfl⟩
  obtain ⟨blocks, hshows, houtputs⟩ := hfinds.clauses.outputs
  have hjoins := hfinds.joins_references
  have hconditions := hfinds.conditions_scalars
  rw [htable] at hshows hjoins hconditions
  refine ⟨blocks.map (List.map Output.text), selection.joins.map Join.text,
    selection.conditions.map Condition.text, ?_, ?_, ?_, ?_⟩
  · rw [List.forall₂_map_right_iff]
    exact hshows.imp fun _ _ => Shows.text
  · rw [List.forall₂_map_right_iff]
    exact hjoins.imp fun _ _ => Joins.text hcolumn
  · rw [Parameters.names, List.forall₂_map_left_iff, List.forall₂_map_right_iff]
    refine hconditions.imp ?_
    rintro parameter condition ⟨found, hm, hname, rfl⟩
    exact ⟨found, hm, hname, rfl⟩
  · rw [← List.map_flatten, ← houtputs, ← htable]
    change selection.text = _
    unfold Selection.text
    apply congrArg
    by_cases hnone : selection.conditions = []
    · rw [if_pos hnone, if_pos (List.map_eq_nil_iff.mpr hnone)]
    · rw [if_neg hnone, if_neg (mt List.map_eq_nil_iff.mp hnone)]

-- Employees that refer to their managers, who are employees too. One level of them is joined.
def staff : Schema where
  entities := [
    ⟨"Employee", none, "id", none, [⟨"id", .scalar .integer, none⟩,
      ⟨"manager", .entity "Employee", none⟩, ⟨"name", .scalar .text, none⟩]⟩]
  ascending := by decide +kernel
  named := by decide +kernel
  flawless := by decide +kernel

example : (find staff "Employee" ⟨[⟨"name", .scalar .blob⟩]⟩).map Statement.text = .ok
    ("SELECT employee.id AS id, manager.id AS manager_id, manager.name AS manager_name, " ++
      "employee.name AS name FROM employee " ++
      "LEFT OUTER JOIN employee AS manager ON manager.employee = employee.id " ++
      "WHERE employee.name = :name") := by
  decide +kernel

-- Tables and columns with names of their own. The books are told apart by a property that is called
-- `isbn`, and by a column that is not.
def bookshop : Schema where
  entities := [
    ⟨"Author", some "writers", "key", none, [⟨"key", .scalar .integer, some "writer_no"⟩,
      ⟨"fullName", .scalar .text, none⟩]⟩,
    ⟨"Book", some "books", "isbn", none, [⟨"isbn", .scalar .text, some "isbn_no"⟩,
      ⟨"author", .entity "Author", some "written_by"⟩, ⟨"title", .scalar .text, none⟩]⟩]
  ascending := by decide +kernel
  named := by decide +kernel
  flawless := by decide +kernel

example : (find bookshop "Book" ⟨[⟨"isbn", .scalar .text⟩, ⟨"title", .scalar .text⟩]⟩).map
      Statement.text = .ok
    ("SELECT books.isbn_no AS isbn_no, written_by.writer_no AS written_by_writer_no, " ++
      "written_by.full_name AS written_by_full_name, books.title AS title FROM books " ++
      "LEFT OUTER JOIN writers AS written_by ON written_by.books = books.isbn_no " ++
      "WHERE books.isbn_no = :isbn AND books.title = :title") := by
  decide +kernel

end Statement

end Finder
