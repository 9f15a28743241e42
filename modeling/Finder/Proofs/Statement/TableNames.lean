import Finder.Proofs.Statement.Described
import Finder.Proofs.Statement.OutputNames

namespace Finder

namespace Source

-- Where no two sources have one name, a column may be missing, but it is never found twice.
theorem locate_ne_ambiguous (sources : List Source) (hdistinct : (sources.map name).Nodup)
    (ref : ColumnRef) : locate sources ref ≠ .error (.ambiguousColumn ref) := by
  intro hlocate
  have hholders : holders sources ref ≤ (sources.map name).count ref.table := by
    rw [holders, List.count, List.countP_map]
    refine List.countP_mono_left fun source _ hsource => ?_
    simp only [decide_eq_true_eq] at hsource
    simpa using hsource.1
  have hcount := List.nodup_iff_count_le_one.mp hdistinct ref.table
  rw [← length_placesFrom ref 0 sources] at hholders
  unfold locate at hlocate
  split at hlocate
  · cases hlocate
  · cases hlocate
  · next places hnotOne hnotNone =>
    cases hplaces : placesFrom ref 0 sources with
    | nil => exact hnotNone hplaces
    | cons place rest =>
        cases rest with
        | nil => exact hnotOne place hplaces
        | cons other rest =>
            rw [hplaces, List.length_cons, List.length_cons] at hholders
            omega

end Source

namespace Selection

-- The names by which a statement speaks of its tables, that of the root first.
def tableNames (selection : Selection) : List String :=
  selection.table :: selection.joins.map Join.name

-- One of the tables of the statement has the name that stands before the column, and no other has.
def Unambiguous (selection : Selection) (ref : ColumnRef) : Prop :=
  ∃! position : Nat, selection.tableNames[position]? = some ref.table

variable {selection : Selection}

theorem unambiguous_of_nodup (hdistinct : selection.tableNames.Nodup) (ref : ColumnRef)
    (hmem : ref.table ∈ selection.tableNames) : selection.Unambiguous ref := by
  obtain ⟨position, hposition⟩ := List.getElem?_of_mem hmem
  refine ⟨position, hposition, fun other hother => ?_⟩
  obtain ⟨hlt, _⟩ := List.getElem?_eq_some_iff.mp hother
  exact (List.getElem?_inj hlt hdistinct).mp (hother.trans hposition.symm)

theorem names_of_joinSources (database : Database) (joins : List Join) (sources : List Source)
    (h : joinSources database joins = .ok sources) :
    sources.map Source.name = joins.map Join.name := by
  induction joins generalizing sources with
  | nil =>
      obtain rfl := Except.ok.inj h
      rfl
  | cons join rest ih =>
      obtain ⟨_, _, h⟩ := (except_bind_eq_ok _ _ _).mp h
      obtain ⟨later, hlater, h⟩ := (except_bind_eq_ok _ _ _).mp h
      obtain rfl := Except.ok.inj h
      rw [List.map_cons, List.map_cons, ih later hlater]

theorem names_of_sources (database : Database) (sources : List Source)
    (h : selection.sources database = .ok sources) :
    sources.map Source.name = selection.tableNames := by
  obtain ⟨_, _, h⟩ := (except_bind_eq_ok _ _ _).mp h
  obtain ⟨joined, hjoined, h⟩ := (except_bind_eq_ok _ _ _).mp h
  obtain rfl := Except.ok.inj h
  rw [List.map_cons, names_of_joinSources database _ joined hjoined, tableNames]

end Selection

theorem Schema.aliases_eq (schema : Schema) (root : String) :
    schema.aliases root = (schema.references root).map fun found => found.property.columnName := by
  unfold aliases references
  induction schema.visible root with
  | nil => rfl
  | cons found rest ih =>
      cases ht : found.property.type.target? with
      | none => simp [ht, ih]
      | some target => simp [ht, ih]

namespace Statement

section

variable {schema : Schema} {root : String} {parameters : List Parameter} {selection : Selection}

-- The columns of references differ from each other as columns of the root.
theorem Finds.tableNames_nodup_iff (h : Finds schema root parameters selection)
    (hcolumns : schema.ColumnsDiffer root) :
    selection.tableNames.Nodup ↔
      ∀ reference ∈ schema.references root, reference.property.columnName ≠ selection.table := by
  have haliases : (schema.aliases root).Nodup := by
    rw [schema.aliases_eq]
    exact hcolumns.sublist (List.filter_sublist.map _)
  have hroot : selection.table ∉ schema.aliases root ↔
      ∀ reference ∈ schema.references root, reference.property.columnName ≠ selection.table := by
    rw [schema.aliases_eq, List.mem_map]
    simp
  rw [Selection.tableNames, h.names_eq_aliases, List.nodup_cons, hroot]
  exact and_iff_left haliases

theorem Finds.table_mem_tableNames (h : Finds schema root parameters selection) (ref : ColumnRef)
    (href : ref ∈ selection.refs) : ref.table ∈ selection.tableNames := by
  have hjoined (join : Join) (hj : join ∈ selection.joins) : join.name ∈ selection.tableNames :=
    List.mem_cons_of_mem _ (List.mem_map_of_mem hj)
  have hroot : selection.table ∈ selection.tableNames := List.mem_cons_self
  simp only [Selection.refs, List.mem_append] at href
  rcases href with (href | href) | href
  · obtain ⟨output, ho, rfl⟩ := List.mem_map.mp href
    rw [h.outputs] at ho
    obtain ⟨found, hm, hfound⟩ := List.mem_flatMap.mp ho
    cases ht : found.property.type with
    | scalar kind =>
        have hown : output = ⟨⟨selection.table, found.property.columnName⟩,
            found.property.columnName⟩ := by
          simpa [Statement.outputs, ht] using hfound
        exact hown ▸ hroot
    | entity target =>
        obtain ⟨join, hj, hname, _⟩ := h.exists_join found hm target ht
        simp only [Statement.outputs, ht, childOutputs_eq] at hfound
        obtain ⟨other, _, rfl⟩ := List.mem_map.mp hfound
        exact hname ▸ hjoined join hj
  · obtain ⟨join, hj, href⟩ := List.mem_flatMap.mp href
    obtain ⟨hreference, htarget⟩ := h.starlike.joins join hj
    simp only [List.mem_cons, List.not_mem_nil, or_false] at href
    rcases href with rfl | rfl
    · exact hreference ▸ hjoined join hj
    · exact htarget ▸ hroot
  · obtain ⟨condition, hc, rfl⟩ := List.mem_map.mp href
    exact h.starlike.conditions condition hc ▸ hroot

-- A join for a reference that has the name of the root's table looks for its target in both.
theorem Finds.ne_table_of_unambiguous (h : Finds schema root parameters selection)
    (hall : ∀ ref ∈ selection.refs, selection.Unambiguous ref) :
    ∀ reference ∈ schema.references root, reference.property.columnName ≠ selection.table := by
  intro reference hreference hsame
  obtain ⟨hm, target, ht⟩ := (schema.mem_references_iff root reference).mp hreference
  obtain ⟨join, hj, hname, _⟩ := h.exists_join reference hm target ht
  have htarget : join.target ∈ selection.refs := Selection.target_mem_refs join hj
  obtain ⟨position, hposition, hunique⟩ := hall join.target htarget
  have htable : join.target.table = selection.table := (h.starlike.joins join hj).2
  obtain ⟨i, hi⟩ := List.getElem?_of_mem (List.mem_map_of_mem (f := Join.name) hj)
  have hfirst : selection.tableNames[0]? = some join.target.table := by
    rw [htable]
    rfl
  have hlater : selection.tableNames[i + 1]? = some join.target.table := by
    rw [Selection.tableNames, List.getElem?_cons_succ, hi, hname, hsame, htable]
  have hzero := hunique 0 hfirst
  have hsucc := hunique (i + 1) hlater
  omega

end

-- The tables of a find have different names just when no reference of the root has the name of the
-- root's table for its column, and then each column that is spoken of is that of one table, whatever
-- columns the tables have.
theorem table_references_unambiguous_iff (schema : Schema) (root : String)
    (hcolumns : schema.ColumnsDiffer root) (parameters : Parameters) (selection : Selection)
    (hfind : find schema root parameters = .ok (.select selection)) :
    (selection.tableNames.Nodup ↔
        ∀ reference ∈ schema.references root, reference.property.columnName ≠ selection.table) ∧
      ((∀ ref ∈ selection.refs, selection.Unambiguous ref) ↔ selection.tableNames.Nodup) ∧
      (selection.tableNames.Nodup → ∀ database sources, selection.sources database = .ok sources →
        ∀ ref ∈ selection.refs, Source.locate sources ref ≠ .error (.ambiguousColumn ref)) := by
  obtain ⟨_, hselection, hfinds⟩ := finds_of_find schema root parameters _ hfind
  obtain rfl := Statement.select.inj hselection
  have hnodup := hfinds.tableNames_nodup_iff hcolumns
  refine ⟨hnodup, ⟨fun hall => ?_, fun hdistinct ref href => ?_⟩, ?_⟩
  · exact hnodup.mpr (hfinds.ne_table_of_unambiguous hall)
  · exact Selection.unambiguous_of_nodup hdistinct ref (hfinds.table_mem_tableNames ref href)
  · intro hdistinct database sources hsources ref _
    have hnames := Selection.names_of_sources database sources hsources
    exact Source.locate_ne_ambiguous sources (hnames ▸ hdistinct) ref

theorem table_references_unambiguous_staff :
    staff.ColumnsDiffer "Employee" ∧
      find staff "Employee" .empty = .ok (.select staffSelection) ∧
      staffSelection.tableNames.Nodup ∧
      ∀ ref ∈ staffSelection.refs, staffSelection.Unambiguous ref := by
  have hcolumns : staff.ColumnsDiffer "Employee" := by decide +kernel
  have hfind : find staff "Employee" .empty = .ok (.select staffSelection) := by decide +kernel
  have hdistinct : staffSelection.tableNames.Nodup := by decide +kernel
  obtain ⟨_, hall, _⟩ := table_references_unambiguous_iff staff "Employee" hcolumns .empty
    staffSelection hfind
  exact ⟨hcolumns, hfind, hdistinct, hall.mpr hdistinct⟩

-- Categories that may lie in other categories.
def categories : Schema where
  entities := [
    ⟨"Category", none, "id", none, [⟨"id", .scalar .integer, none⟩,
      ⟨"category", .entity "Category", none⟩]⟩]
  ascending := by decide +kernel
  named := by decide +kernel
  flawless := by decide +kernel

def categorySelection : Selection where
  outputs := [⟨⟨"category", "id"⟩, "id"⟩, ⟨⟨"category", "id"⟩, "category_id"⟩]
  table := "category"
  joins := [⟨"category", "category", ⟨"category", "category"⟩, ⟨"category", "id"⟩⟩]
  conditions := []

def library : Database where
  tables := [⟨"category", ["id", "category"], [[.integer 1, .null], [.integer 2, .integer 1]]⟩]

-- The category around a category goes by the name of the root, so that no column is that of one of
-- them alone, and the statement does not run.
theorem not_table_references_unambiguous :
    categories.ColumnsDiffer "Category" ∧
      find categories "Category" .empty = .ok (.select categorySelection) ∧
      ¬categorySelection.tableNames.Nodup ∧
      (∃ ref ∈ categorySelection.refs, ¬categorySelection.Unambiguous ref) ∧
      categorySelection.rows library [] = .error (.ambiguousColumn ⟨"category", "category"⟩) := by
  refine ⟨by decide +kernel, by decide +kernel, by decide +kernel, ?_, by decide +kernel⟩
  refine ⟨⟨"category", "id"⟩, by decide +kernel, ?_⟩
  rintro ⟨position, _, hunique⟩
  have hzero := hunique 0 rfl
  have hone := hunique 1 rfl
  omega

end Statement

end Finder
