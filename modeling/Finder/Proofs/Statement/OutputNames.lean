import Finder.Proofs.Statement.Clauses
import Mathlib.Data.List.Pairwise

namespace Finder

-- What stands before the first of two separators is a beginning of what stands before the other.
theorem begins_of_append_eq {α : Type} {separator : α} {first second firstRest secondRest : List α}
    (h : first ++ separator :: firstRest = second ++ separator :: secondRest)
    (hne : first ≠ second) :
    first ++ [separator] <+: second ∨ second ++ [separator] <+: first := by
  -- The shorter of the two is a beginning of the longer one, and a separator comes next in it.
  have hnext {short long between shortRest longRest : List α} (hlong : long = short ++ between)
      (hrest : separator :: shortRest = between ++ separator :: longRest) (hdiffer : short ≠ long) :
      short ++ [separator] <+: long := by
    cases between with
    | nil => exact absurd (by simpa using hlong.symm) hdiffer
    | cons c between =>
        obtain ⟨rfl, _⟩ := List.cons.inj hrest
        exact ⟨between, by simp [hlong]⟩
  rcases List.append_eq_append_iff.mp h with ⟨between, hsecond, hrest⟩ | ⟨between, hfirst, hrest⟩
  · exact .inl (hnext hsecond hrest hne)
  · exact .inr (hnext hfirst hrest (Ne.symm hne))

namespace Schema

-- The columns visible on an entity have different names.
def ColumnsDiffer (schema : Schema) (entity : String) : Prop :=
  ((schema.visible entity).map fun found => found.property.columnName).Nodup

-- The names that the columns of an entity get behind a reference to it.
def childNames (schema : Schema) (reference : OwnedProperty) : List String :=
  match reference.property.type with
  | .scalar _ => []
  | .entity target => (schema.scalars target).map fun other =>
      reference.property.columnName ++ "_" ++ other.property.columnName

-- No column of the root is named like one behind a reference, and no two references lead to columns
-- of the same name.
structure NamesApart (schema : Schema) (root : String) : Prop where
  scalars : ∀ own ∈ schema.scalars root, ∀ reference ∈ schema.references root,
    own.property.columnName ∉ schema.childNames reference
  references : ∀ first ∈ schema.references root, ∀ second ∈ schema.references root,
    first ≠ second → ∀ name ∈ schema.childNames first, name ∉ schema.childNames second

-- No column begins with the name of a reference of the same root and an underscore.
def Unprefixed (schema : Schema) (root : String) : Prop :=
  ∀ reference ∈ schema.references root, ∀ found ∈ schema.visible root,
    ¬(reference.property.columnName ++ "_").toList <+: found.property.columnName.toList

instance (schema : Schema) (entity : String) : Decidable (schema.ColumnsDiffer entity) :=
  inferInstanceAs (Decidable (List.Nodup _))

instance (schema : Schema) (root : String) : Decidable (schema.Unprefixed root) :=
  inferInstanceAs (Decidable (∀ reference ∈ schema.references root, ∀ found ∈ schema.visible root,
    ¬(reference.property.columnName ++ "_").toList <+: found.property.columnName.toList))

section

variable {schema : Schema} {root : String}

theorem mem_childNames_iff (reference : OwnedProperty) (name : String) :
    name ∈ schema.childNames reference ↔ ∃ target, reference.property.type = .entity target ∧
      ∃ other ∈ schema.scalars target,
        name = reference.property.columnName ++ "_" ++ other.property.columnName := by
  unfold childNames
  cases reference.property.type <;> simp [eq_comm]

theorem visible_nodup (schema : Schema) (entity : String) : (schema.visible entity).Nodup := by
  cases hproperties : schema.properties? entity with
  | none => simp [visible, hproperties]
  | some properties =>
      rw [visible, hproperties, Option.getD_some]
      exact .of_map _ (schema.properties?_nodup entity properties hproperties)

theorem columnName_ne (hcolumns : schema.ColumnsDiffer root) (first second : OwnedProperty)
    (hfirst : first ∈ schema.visible root) (hsecond : second ∈ schema.visible root)
    (hne : first ≠ second) : first.property.columnName ≠ second.property.columnName := by
  intro hsame
  exact hne (List.inj_on_of_nodup_map hcolumns hfirst hsecond hsame)

-- One reference leads to columns of one entity, which differ behind the same beginning too.
theorem childNames_nodup (hcolumns : ∀ entity ∈ schema.entities, schema.ColumnsDiffer entity.name)
    (reference : OwnedProperty) (hm : reference ∈ schema.references root) :
    (schema.childNames reference).Nodup := by
  obtain ⟨hvisible, target, ht⟩ := (schema.mem_references_iff root reference).mp hm
  have htarget := schema.mem_targets root reference hvisible target ht
  obtain ⟨entity, hentity⟩ := (schema.contains_iff target).mp
    (Statement.contains_target schema root target htarget)
  obtain ⟨hmem, rfl⟩ := schema.entity?_eq_some target entity hentity
  have hscalars : ((schema.scalars entity.name).map fun other =>
      other.property.columnName).Nodup :=
    (hcolumns entity hmem).sublist (List.filter_sublist.map _)
  have hprefixed := hscalars.map (f := fun column => reference.property.columnName ++ "_" ++ column)
    fun first second hsame => by simpa [← String.toList_inj] using hsame
  rw [List.map_map] at hprefixed
  simp only [childNames, ht]
  exact hprefixed

-- Two names that agree share a beginning that holds an underscore, and the root has it.
theorem Unprefixed.namesApart (h : schema.Unprefixed root) (hcolumns : schema.ColumnsDiffer root) :
    schema.NamesApart root := by
  constructor
  case scalars =>
    intro own hown reference hreference hname
    obtain ⟨hvisible, _⟩ := (schema.mem_scalars_iff root own).mp hown
    obtain ⟨_, _, other, _, hcolumn⟩ := (mem_childNames_iff reference _).mp hname
    refine h reference hreference own hvisible ?_
    rw [hcolumn]
    exact ⟨other.property.columnName.toList, String.toList_append.symm⟩
  case references =>
    intro first hfirst second hsecond hne name hname hagain
    obtain ⟨hseen, _⟩ := (schema.mem_references_iff root first).mp hfirst
    obtain ⟨hseen', _⟩ := (schema.mem_references_iff root second).mp hsecond
    obtain ⟨_, _, one, _, hone⟩ := (mem_childNames_iff first name).mp hname
    obtain ⟨_, _, other, _, hother⟩ := (mem_childNames_iff second name).mp hagain
    have hdiffer := columnName_ne hcolumns first second hseen hseen' hne
    have hsame : first.property.columnName.toList ++ '_' :: one.property.columnName.toList =
        second.property.columnName.toList ++ '_' :: other.property.columnName.toList := by
      simpa using congrArg String.toList (hone.symm.trans hother)
    rcases begins_of_append_eq hsame (by simpa [String.toList_inj] using hdiffer) with hlong | hlong
    · exact h first hfirst second hseen' (by simpa using hlong)
    · exact h second hsecond first hseen (by simpa using hlong)

end

end Schema

theorem Source.length_of_locateAll (sources : List Source) (refs : List ColumnRef)
    (places : List Place) (h : locateAll sources refs = .ok places) :
    places.length = refs.length := by
  induction refs generalizing places with
  | nil =>
      obtain rfl := Except.ok.inj h
      rfl
  | cons ref rest ih =>
      obtain ⟨_, _, h⟩ := (except_bind_eq_ok _ _ _).mp h
      obtain ⟨later, hlater, h⟩ := (except_bind_eq_ok _ _ _).mp h
      obtain rfl := Except.ok.inj h
      rw [List.length_cons, List.length_cons, ih later hlater]

namespace Selection

theorem names_of_rows (selection : Selection) (database : Database)
    (arguments : List (String × Value)) (rows : List Row)
    (h : selection.rows database arguments = .ok rows) (row : Row) (hm : row ∈ rows) :
    row.map Prod.fst = selection.outputs.map Output.name := by
  unfold Selection.rows at h
  split at h
  · cases h
  · obtain ⟨_, _, h⟩ := (except_bind_eq_ok _ _ _).mp h
    obtain ⟨sources, _, h⟩ := (except_bind_eq_ok _ _ _).mp h
    obtain ⟨_, _, h⟩ := (except_bind_eq_ok _ _ _).mp h
    obtain ⟨places, hplaces, h⟩ := (except_bind_eq_ok _ _ _).mp h
    obtain ⟨_, _, h⟩ := (except_bind_eq_ok _ _ _).mp h
    obtain rfl := Except.ok.inj h
    obtain ⟨combination, _, rfl⟩ := List.mem_map.mp hm
    have hlength := Source.length_of_locateAll _ _ places hplaces
    rw [List.length_map] at hlength
    rw [outputRow, List.map_map]
    calc (selection.outputs.zip places).map (fun shown => shown.1.name)
        = ((selection.outputs.zip places).map Prod.fst).map Output.name := by rw [List.map_map]; rfl
      _ = selection.outputs.map Output.name := by rw [List.map_fst_zip hlength.ge]

-- What is read under a name is what was put there, where no two outputs share a name.
theorem lookup_of_rows (selection : Selection) (hnames : (selection.outputs.map Output.name).Nodup)
    (database : Database) (arguments : List (String × Value)) (rows : List Row)
    (h : selection.rows database arguments = .ok rows) (row : Row) (hm : row ∈ rows)
    (shown : String × Value) (hshown : shown ∈ row) : row.lookup shown.1 = some shown.2 := by
  have hrow := selection.names_of_rows database arguments rows h row hm
  exact Keyed.lookup_of_mem row (hrow ▸ hnames) shown.1 shown.2 hshown

end Selection

namespace Statement

section

variable {schema : Schema} {root : String} {parameters : List Parameter} {selection : Selection}

-- The names of the outputs that stand for a visible property of a root.
def shownNames (schema : Schema) (found : OwnedProperty) : List String :=
  match found.property.type with
  | .scalar _ => [found.property.columnName]
  | .entity _ => schema.childNames found

theorem mem_shownNames_iff (found : OwnedProperty) (hm : found ∈ schema.visible root)
    (name : String) :
    name ∈ shownNames schema found ↔
      found ∈ schema.scalars root ∧ name = found.property.columnName ∨
        found ∈ schema.references root ∧ name ∈ schema.childNames found := by
  rw [shownNames, schema.mem_scalars_iff, schema.mem_references_iff]
  cases found.property.type <;> simp [hm]

theorem Finds.names_eq_shownNames (h : Finds schema root parameters selection) :
    selection.outputs.map Output.name = (schema.visible root).flatMap (shownNames schema) := by
  rw [h.outputs, List.map_flatMap]
  refine List.flatMap_congr fun found _ => ?_
  cases ht : found.property.type with
  | scalar kind => simp [Statement.outputs, shownNames, ht]
  | entity target => simp [Statement.outputs, shownNames, Schema.childNames, childOutputs_eq, ht]

theorem disjoint_shownNames_iff (hcolumns : schema.ColumnsDiffer root) :
    (∀ first ∈ schema.visible root, ∀ second ∈ schema.visible root, first ≠ second →
      List.Disjoint (shownNames schema first) (shownNames schema second)) ↔
      schema.NamesApart root := by
  constructor
  · intro hdisjoint
    constructor
    case scalars =>
      intro own hown reference hreference hname
      obtain ⟨hseen, kind, ht⟩ := (schema.mem_scalars_iff root own).mp hown
      obtain ⟨hseen', target, ht'⟩ := (schema.mem_references_iff root reference).mp hreference
      have hne : own ≠ reference := by
        rintro rfl
        cases ht.symm.trans ht'
      exact hdisjoint own hseen reference hseen' hne
        ((mem_shownNames_iff own hseen _).mpr (.inl ⟨hown, rfl⟩))
        ((mem_shownNames_iff reference hseen' _).mpr (.inr ⟨hreference, hname⟩))
    case references =>
      intro first hfirst second hsecond hne name hname hagain
      obtain ⟨hseen, _⟩ := (schema.mem_references_iff root first).mp hfirst
      obtain ⟨hseen', _⟩ := (schema.mem_references_iff root second).mp hsecond
      exact hdisjoint first hseen second hseen' hne
        ((mem_shownNames_iff first hseen _).mpr (.inr ⟨hfirst, hname⟩))
        ((mem_shownNames_iff second hseen' _).mpr (.inr ⟨hsecond, hagain⟩))
  · intro hapart first hseen second hseen' hne name hname hagain
    -- Own columns differ as columns of the root; all else is kept apart by assumption.
    rcases (mem_shownNames_iff first hseen name).mp hname with ⟨hfirst, rfl⟩ | ⟨hfirst, hname⟩ <;>
      rcases (mem_shownNames_iff second hseen' _).mp hagain with ⟨hsecond, hsame⟩ | ⟨hsecond, hagain⟩
    · exact Schema.columnName_ne hcolumns first second hseen hseen' hne hsame
    · exact hapart.scalars first hfirst second hsecond hagain
    · exact hapart.scalars second hsecond first hfirst (hsame ▸ hname)
    · exact hapart.references first hfirst second hsecond hne name hname hagain

theorem Finds.names_nodup_iff (h : Finds schema root parameters selection)
    (hcolumns : ∀ entity ∈ schema.entities, schema.ColumnsDiffer entity.name)
    (hroot : schema.ColumnsDiffer root) :
    (selection.outputs.map Output.name).Nodup ↔ schema.NamesApart root := by
  have heach : ∀ found ∈ schema.visible root, (shownNames schema found).Nodup := by
    intro found hm
    unfold shownNames
    cases ht : found.property.type with
    | scalar kind => exact List.nodup_singleton _
    | entity target =>
        exact Schema.childNames_nodup hcolumns found
          ((schema.mem_references_iff root found).mpr ⟨hm, target, ht⟩)
  rw [h.names_eq_shownNames, List.nodup_flatMap, ← disjoint_shownNames_iff hroot]
  constructor
  · rintro ⟨_, hpairs⟩ first hfirst second hsecond hne
    have : Std.Symm (Function.onFun List.Disjoint (shownNames schema)) :=
      ⟨fun _ _ hdisjoint _ hname hagain => hdisjoint hagain hname⟩
    exact hpairs.forall hfirst hsecond hne
  · intro hdisjoint
    exact ⟨heach, (schema.visible_nodup root).pairwise_of_forall_ne hdisjoint⟩

end

-- A find names its outputs differently just when the root keeps these names apart, and it does so
-- where no column begins like the columns behind a reference. A row can then be read by the names.
theorem output_names_nodup_iff (schema : Schema)
    (hcolumns : ∀ entity ∈ schema.entities, schema.ColumnsDiffer entity.name) (root : String)
    (parameters : Parameters) (selection : Selection)
    (hfind : find schema root parameters = .ok (.select selection)) :
    ((selection.outputs.map Output.name).Nodup ↔ schema.NamesApart root) ∧
      (schema.Unprefixed root → schema.NamesApart root) ∧
      (schema.NamesApart root → ∀ database arguments rows,
        selection.rows database arguments = .ok rows →
          ∀ row ∈ rows, ∀ shown ∈ row, row.lookup shown.1 = some shown.2) := by
  obtain ⟨_, hselection, hfinds⟩ := finds_of_find schema root parameters _ hfind
  obtain rfl := Statement.select.inj hselection
  have hroot : schema.ColumnsDiffer root := by
    obtain ⟨entity, hentity⟩ := (schema.contains_iff root).mp hfinds.contains_root
    obtain ⟨hmem, rfl⟩ := schema.entity?_eq_some root entity hentity
    exact hcolumns entity hmem
  have hiff := hfinds.names_nodup_iff hcolumns hroot
  refine ⟨hiff, fun hunprefixed => hunprefixed.namesApart hroot, ?_⟩
  intro hapart database arguments rows hrows row hm shown hshown
  exact selection.lookup_of_rows (hiff.mpr hapart) database arguments rows hrows row hm shown hshown

def staffSelection : Selection where
  outputs := [⟨⟨"employee", "id"⟩, "id"⟩, ⟨⟨"manager", "id"⟩, "manager_id"⟩,
    ⟨⟨"manager", "name"⟩, "manager_name"⟩, ⟨⟨"employee", "name"⟩, "name"⟩]
  table := "employee"
  joins := [⟨"employee", "manager", ⟨"manager", "employee"⟩, ⟨"employee", "id"⟩⟩]
  conditions := []

theorem output_names_nodup_staff :
    (∀ entity ∈ staff.entities, staff.ColumnsDiffer entity.name) ∧
      find staff "Employee" .empty = .ok (.select staffSelection) ∧
      staff.Unprefixed "Employee" ∧ (staffSelection.outputs.map Output.name).Nodup := by
  have hcolumns : ∀ entity ∈ staff.entities, staff.ColumnsDiffer entity.name := by decide +kernel
  have hfind : find staff "Employee" .empty = .ok (.select staffSelection) := by decide +kernel
  have hunprefixed : staff.Unprefixed "Employee" := by decide +kernel
  obtain ⟨hiff, happart, _⟩ := output_names_nodup_iff staff hcolumns "Employee" .empty
    staffSelection hfind
  exact ⟨hcolumns, hfind, hunprefixed, hiff.mpr (happart hunprefixed)⟩

-- Persons with a name for an animal and an animal with a name.
def namesakes : Schema where
  entities := [
    ⟨"Animal", none, "id", none, [⟨"id", .scalar .integer, none⟩, ⟨"name", .scalar .text, none⟩]⟩,
    ⟨"Person", none, "id", none, [⟨"id", .scalar .integer, none⟩,
      ⟨"animalName", .scalar .text, none⟩, ⟨"animal", .entity "Animal", none⟩]⟩]
  ascending := by decide +kernel
  named := by decide +kernel
  flawless := by decide +kernel

def namesakesSelection : Selection where
  outputs := [⟨⟨"person", "id"⟩, "id"⟩, ⟨⟨"person", "animal_name"⟩, "animal_name"⟩,
    ⟨⟨"animal", "id"⟩, "animal_id"⟩, ⟨⟨"animal", "name"⟩, "animal_name"⟩]
  table := "person"
  joins := [⟨"animal", "animal", ⟨"animal", "person"⟩, ⟨"person", "id"⟩⟩]
  conditions := []

def menagerie : Database where
  tables := [⟨"person", ["id", "animal_name"], [[.integer 1, .text "tiger"]]⟩,
    ⟨"animal", ["id", "name", "person"], [[.integer 7, .text "Rex", .integer 1]]⟩]

-- The name of the animal cannot be read by its name: what stands there is what the person calls it.
theorem not_output_names_nodup :
    (∀ entity ∈ namesakes.entities, namesakes.ColumnsDiffer entity.name) ∧
      find namesakes "Person" .empty = .ok (.select namesakesSelection) ∧
      ¬(namesakesSelection.outputs.map Output.name).Nodup ∧
      ∃ row, namesakesSelection.rows menagerie [] = .ok [row] ∧
        ("animal_name", .text "Rex") ∈ row ∧ row.lookup "animal_name" = some (.text "tiger") := by
  refine ⟨by decide +kernel, by decide +kernel, by decide +kernel, ?_⟩
  exact ⟨[("id", .integer 1), ("animal_name", .text "tiger"), ("animal_id", .integer 7),
    ("animal_name", .text "Rex")], by decide +kernel, by decide +kernel, by decide +kernel⟩

end Statement

end Finder
