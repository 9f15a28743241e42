import Finder.Proofs.Query.Language
import Finder.Proofs.Schema.Inherited

namespace Finder

-- The same condition on a column of another table.
def Condition.on (table : String) (condition : Condition) : Condition :=
  { condition with column := { condition.column with table } }

namespace Statement

-- Two statements that put the same conditions, each on its table. What they show may differ, and also
-- what they join.
inductive SameConditions (table other : String) : Statement → Statement → Prop
  | count : SameConditions table other (.count table) (.count other)
  | select (selection moved : Selection) (htable : selection.table = table)
      (hother : moved.table = other)
      (hplaced : ∀ condition ∈ selection.conditions, condition.column.table = table)
      (hmoved : moved.conditions = selection.conditions.map (Condition.on other)) :
      SameConditions table other (.select selection) (.select moved)

section

variable {declared : Declarations} {parameters : List Parameter} {conditions : List Condition}

theorem conditions_on_table (root table : String)
    (h : Statement.conditions declared root table parameters = .ok conditions) :
    ∀ condition ∈ conditions, condition.column.table = table := by
  intro condition hmem
  have hcompares := (conditions_eq_ok_iff declared root table parameters conditions).mp h
  obtain ⟨parameter, _, found, kind, _, _, rfl⟩ := exists_left_of_forall₂ hcompares condition hmem
  rfl

theorem conditions_moved (root table other moved : String)
    (hsame : ∀ parameter ∈ parameters,
      declared.property? other parameter.name = declared.property? root parameter.name)
    (h : Statement.conditions declared root table parameters = .ok conditions) :
    Statement.conditions declared other moved parameters =
      .ok (conditions.map (Condition.on moved)) := by
  rw [conditions_eq_ok_iff] at h ⊢
  induction h with
  | nil => exact .nil
  | cons hfirst _ ih =>
      rw [List.forall_mem_cons] at hsame
      obtain ⟨found, kind, hfound, htype, rfl⟩ := hfirst
      exact .cons ⟨found, kind, hsame.1.trans hfound, htype, rfl⟩ (ih hsame.2)

end

end Statement

namespace Query

open Declarations

-- Neither name that a part may stand for is declared on the way from the lower entity to the upper.
structure Unshadowed (schema : Schema) (lower upper part : String) : Prop where
  decapitalized : schema.Undisturbed lower upper (String.ofList (decapitalize part.toList))
  small : schema.Undisturbed lower upper (String.ofList (smallFirst part.toList))

-- A query on an entity, and what is made of its method on one below.
structure InheritedBy (schema : Schema) (upper lower : String) (query inherited : Query) : Prop where
  method_eq : inherited.method = query.method
  criteria_eq : inherited.criteria = query.criteria
  parameters_eq : inherited.parameters = query.parameters
  bindings_eq : inherited.bindings = query.bindings
  statements : ∃ table other, schema.tableName? upper = some table ∧
    schema.tableName? lower = some other ∧
      Statement.SameConditions table other query.statement inherited.statement

section

variable {schema : Schema} {lower upper : String} (hassignable : schema.isAssignable upper lower)
include hassignable

theorem NamesScalar.inherited {part : String} {found : OwnedProperty}
    (h : NamesScalar schema upper part found) (hclear : Unshadowed schema lower upper part) :
    NamesScalar schema lower part found where
  plain := h.plain
  visible := by
    rw [Schema.property?_of_undisturbed lower upper _ hassignable hclear.decapitalized,
      Schema.property?_of_undisturbed lower upper _ hassignable hclear.small]
    exact h.visible
  scalar := h.scalar

theorem Stands.inherited {name : MethodName} {found : List OwnedProperty}
    (h : Stands schema upper name found)
    (hclear : ∀ part ∈ name.parts, Unshadowed schema lower upper part) :
    Stands schema lower name found := by
  cases h with
  | one part property parts names =>
      have hpart := hclear part (by simp [parts])
      exact .one part property parts (names.inherited hassignable hpart)
  | two part next property later parts connectors names names_next differ =>
      have hpart := hclear part (by simp [parts])
      have hnext := hclear next (by simp [parts])
      exact .two part next property later parts connectors (names.inherited hassignable hpart)
        (names_next.inherited hassignable hnext) differ

theorem Speaks.inherited {method : String} {name : MethodName} {found : List OwnedProperty}
    (h : Speaks schema upper method found) (hname : MethodName.parse method = .ok name)
    (hclear : ∀ part ∈ name.parts, Unshadowed schema lower upper part) :
    Speaks schema lower method found where
  mapped := by
    obtain ⟨low, _, hlow, _⟩ := (Schema.isAssignable_iff _ _).mp hassignable
    exact (schema.contains_iff lower).mpr ⟨low, hlow⟩
  stands := by
    obtain ⟨same, hsame, hverb, hstands⟩ := h.stands
    obtain rfl := Except.ok.inj (hname.symm.trans hsame)
    exact ⟨name, hname, hverb, hstands.inherited hassignable hclear⟩

end

section

variable {schema : Schema} {lower upper method : String} {query inherited : Query}

-- A name is read in the same way on every root, so that only what its parts are resolved to can make
-- a difference.
theorem Compiled.criteria_eq_of_predicates (h : Compiled schema schema upper method query)
    (h' : Compiled schema schema lower method inherited)
    (hpredicates : inherited.criteria.predicates = query.criteria.predicates) :
    inherited.criteria = query.criteria := by
  obtain ⟨name, hname, _, hcriteria⟩ := h.exists_name
  obtain ⟨same, hsame, _, hcriteria'⟩ := h'.exists_name
  obtain rfl := Except.ok.inj (hname.symm.trans hsame)
  obtain ⟨_, predicates, _, hc⟩ := (Criteria.resolve_eq_ok_iff _ _ _ _).mp hcriteria
  obtain ⟨_, predicates', _, hc'⟩ := (Criteria.resolve_eq_ok_iff _ _ _ _).mp hcriteria'
  rw [hc, hc'] at hpredicates ⊢
  dsimp only at hpredicates
  rw [hpredicates]

-- The last stage looks the properties up again, on each of the roots.
theorem Compiled.inheritedBy (h : Compiled schema schema upper method query)
    (h' : Compiled schema schema lower method inherited)
    (hcriteria : inherited.criteria = query.criteria)
    (hsame : ∀ parameter ∈ query.parameters.entries,
      schema.property? lower parameter.name = schema.property? upper parameter.name) :
    InheritedBy schema upper lower query inherited := by
  have hparameters := h.parameters_eq_of_predicates h' (congrArg Criteria.predicates hcriteria)
  have hplan := (plan_eq_ok_iff _ _ _ _ _ _).mp h.plan
  have hplan' := (plan_eq_ok_iff _ _ _ _ _ _).mp h'.plan
  rw [hcriteria, hparameters] at hplan'
  have hmethod : inherited.method = query.method := h'.method_eq.trans h.method_eq.symm
  rcases hplan with ⟨hverb, hcount, hbindings⟩ | ⟨hverb, hfind, hbindings⟩
  · rcases hplan' with ⟨_, hcount', hbindings'⟩ | ⟨hverb', _⟩
    · obtain ⟨table, htable, hstatement⟩ := (Statement.countAll_eq_ok_iff _ _ _).mp hcount
      obtain ⟨other, hother, hstatement'⟩ := (Statement.countAll_eq_ok_iff _ _ _).mp hcount'
      refine ⟨hmethod, hcriteria, hparameters, hbindings'.trans hbindings.symm,
        table, other, htable, hother, ?_⟩
      rw [hstatement, hstatement']
      exact .count
    · exact absurd hverb hverb'
  · rcases hplan' with ⟨hverb', _⟩ | ⟨_, hfind', hbindings'⟩
    · exact absurd hverb' hverb
    · obtain ⟨table, _, _, conditions, htable, _, _, hconditions, hstatement⟩ :=
        (Statement.find_eq_ok_iff _ _ _ _).mp hfind
      obtain ⟨other, _, _, moved, hother, _, _, hmoved, hstatement'⟩ :=
        (Statement.find_eq_ok_iff _ _ _ _).mp hfind'
      have hsame_conditions := Statement.conditions_moved upper table lower other hsame hconditions
      refine ⟨hmethod, hcriteria, hparameters, hbindings'.trans hbindings.symm,
        table, other, htable, hother, ?_⟩
      rw [hstatement, hstatement']
      exact .select _ _ rfl rfl (Statement.conditions_on_table upper table hconditions)
        (Except.ok.inj (hmoved.symm.trans hsame_conditions))

end

-- Whoever inherits from an entity answers its queries, where nothing on the way takes a name away. The
-- properties that are compared are the same ones, whoever declares them.
theorem compile_inherited (schema : Schema) (upper lower method : String) (name : MethodName)
    (query : Query) (hassignable : schema.isAssignable upper lower)
    (hquery : compile schema upper method = .ok query) (hname : MethodName.parse method = .ok name)
    (hclear : ∀ part ∈ name.parts, Unshadowed schema lower upper part) :
    ∃ inherited, compile schema lower method = .ok inherited ∧
      InheritedBy schema upper lower query inherited := by
  have hcompiled := (compile_eq_ok_iff _ _ _ _).mp hquery
  obtain ⟨found, hspeaks, hpredicates⟩ := speaks_of_compiled _ _ _ _ query hcompiled
  have hspeaks' := hspeaks.inherited hassignable hname hclear
  obtain ⟨inherited, hinherited, hpredicates'⟩ :=
    exists_query_of_speaks schema lower method found hspeaks'
  have hcompiled' := (compile_eq_ok_iff _ _ _ _).mp hinherited
  have hcriteria := hcompiled.criteria_eq_of_predicates hcompiled'
    (hpredicates'.trans hpredicates.symm)
  refine ⟨inherited, hinherited, hcompiled.inheritedBy hcompiled' hcriteria ?_⟩
  rw [hcompiled.entries_eq, hpredicates, List.map_map]
  intro parameter hmem
  obtain ⟨property, hproperty, rfl⟩ := List.mem_map.mp hmem
  have hupper := (hspeaks.visible_of_mem property hproperty).1
  have hlower := (hspeaks'.visible_of_mem property hproperty).1
  exact hlower.trans hupper.symm

-- Taxis are cars, and these are vehicles. A vehicle has the name of its owner, and a taxi its firm.
def fleet : Schema where
  entities := [
    ⟨"Car", none, "id", some "Vehicle", [⟨"doors", .scalar .integer, none⟩,
      ⟨"garage", .entity "Garage", none⟩]⟩,
    ⟨"Firm", none, "id", none, [⟨"id", .scalar .integer, none⟩]⟩,
    ⟨"Garage", none, "id", none, [⟨"id", .scalar .integer, none⟩]⟩,
    ⟨"Taxi", some "cabs", "id", some "Car", [⟨"owner", .entity "Firm", none⟩]⟩,
    ⟨"Vehicle", none, "id", none, [⟨"id", .scalar .integer, none⟩, ⟨"owner", .scalar .text, none⟩,
      ⟨"plate", .scalar .text, none⟩]⟩]
  ascending := by decide +kernel
  named := by decide +kernel
  flawless := by decide +kernel

-- A name that is taken away means something else below.
example : (compile fleet "Vehicle" "findByOwner").isOk ∧
    compile fleet "Taxi" "findByOwner" = .error ⟨"findByOwner", .entityValued "owner"⟩ := by
  decide +kernel

def taxi : Entity :=
  ⟨"Taxi", some "cabs", "id", some "Car", [⟨"owner", .entity "Firm", none⟩]⟩

def vehicle : Entity :=
  ⟨"Vehicle", none, "id", none, [⟨"id", .scalar .integer, none⟩, ⟨"owner", .scalar .text, none⟩,
    ⟨"plate", .scalar .text, none⟩]⟩

def plateAndId : MethodName :=
  ⟨"find", none, ["Plate", "Id"], [.and]⟩

theorem unshadowed_plateAndId : ∀ part ∈ plateAndId.parts, Unshadowed fleet "Taxi" "Vehicle" part := by
  have hlow : fleet.entity? "Taxi" = some taxi := by decide +kernel
  have hhigh : fleet.entity? "Vehicle" = some vehicle := by decide +kernel
  have hnames : ∀ part ∈ plateAndId.parts, ∀ between ∈ fleet.lineageOf taxi,
      ∀ property ∈ between.properties,
        (property.name = String.ofList (decapitalize part.toList) ∨
          property.name = String.ofList (smallFirst part.toList)) →
            between ∈ fleet.lineageOf vehicle := by
    decide +kernel
  intro part hpart
  constructor
  all_goals
    refine Schema.undisturbed_of_lineages _ _ taxi vehicle _ hlow hhigh ?_
    rintro between hbetween ⟨property, hproperty, hname⟩
  · exact hnames part hpart between hbetween property hproperty (.inl hname)
  · exact hnames part hpart between hbetween property hproperty (.inr hname)

theorem compile_inherited_taxi : fleet.isAssignable "Vehicle" "Taxi" ∧
    MethodName.parse "findByPlateAndId" = .ok plateAndId ∧
    (∀ part ∈ plateAndId.parts, Unshadowed fleet "Taxi" "Vehicle" part) ∧
    ∃ query inherited, compile fleet "Vehicle" "findByPlateAndId" = .ok query ∧
      compile fleet "Taxi" "findByPlateAndId" = .ok inherited ∧
      InheritedBy fleet "Vehicle" "Taxi" query inherited := by
  have hassignable : fleet.isAssignable "Vehicle" "Taxi" := by decide +kernel
  have hname : MethodName.parse "findByPlateAndId" = .ok plateAndId := by decide +kernel
  have hcompiles : (compile fleet "Vehicle" "findByPlateAndId").isOk := by decide +kernel
  cases hquery : compile fleet "Vehicle" "findByPlateAndId" with
  | error error =>
      rw [hquery] at hcompiles
      cases hcompiles
  | ok query =>
      obtain ⟨inherited, hinherited, hsame⟩ := compile_inherited fleet "Vehicle" "Taxi" _ plateAndId
        query hassignable hquery hname unshadowed_plateAndId
      exact ⟨hassignable, hname, unshadowed_plateAndId, query, inherited, rfl, hinherited, hsame⟩

end Query

end Finder
