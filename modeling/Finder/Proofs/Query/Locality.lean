import Finder.Proofs.Criteria.Paths
import Finder.Proofs.Query.Stages
import Finder.Proofs.Schema.Extension

namespace Finder

section

variable {schema larger : Schema}
  (hagree : ∀ name, schema.contains name → schema.AgreesOn larger name)
include hagree

theorem named?_of_agree (entity : String) (hentity : schema.contains entity) (word : List Char) :
    larger.named? entity word = schema.named? entity word := by
  simp only [Declarations.named?, (hagree entity hentity).property?_eq]

theorem reference?_of_agree (entity : String) (hentity : schema.contains entity)
    (word : List Char) : larger.reference? entity word = schema.reference? entity word := by
  rw [Declarations.reference?, Declarations.reference?, named?_of_agree hagree entity hentity]

-- A step through a reference leads to an entity that the smaller schema knows.
theorem step?_of_agree (entity : String) (hentity : schema.contains entity) (head tail : List Char)
    (hrest : ∀ target, schema.contains target →
      resolvePart larger.toDeclarations target tail =
        resolvePart schema.toDeclarations target tail) :
    larger.step? entity head tail = schema.step? entity head tail := by
  unfold Declarations.step?
  rw [reference?_of_agree hagree entity hentity]
  cases hreference : schema.reference? entity head with
  | none => rfl
  | some reached =>
      obtain ⟨found, target⟩ := reached
      obtain ⟨hnamed, ht⟩ := schema.reference?_eq_some entity head found target hreference
      have hvisible := schema.property?_of_named? entity head found hnamed
      have htarget := schema.contains_of_refers entity _ found hvisible target ht
      simp only [Option.bind_some, hrest target htarget]

-- The search goes the same ways: every step shortens the part and stays in the smaller schema.
theorem resolvePart_of_agree (entity : String) (hentity : schema.contains entity)
    (part : List Char) :
    resolvePart larger.toDeclarations entity part =
      resolvePart schema.toDeclarations entity part := by
  induction hlength : part.length using Nat.strong_induction_on generalizing entity part with
  | _ length ih =>
      have hstep (head tail : List Char) (hshorter : tail.length < part.length) :
          larger.step? entity head tail = schema.step? entity head tail :=
        step?_of_agree hagree entity hentity head tail fun target htarget =>
          ih tail.length (hlength ▸ hshorter) target htarget tail rfl
      by_cases hnil : part = []
      · rw [hnil, resolvePart_nil, resolvePart_nil]
      cases hcut : cutAtUnderscore part with
      | some cut =>
          obtain ⟨head, tail⟩ := cut
          rw [resolvePart_of_underscore _ entity part head tail hcut,
            resolvePart_of_underscore _ entity part head tail hcut]
          exact hstep head tail (cutAtUnderscore_length hcut)
      | none =>
          have hplain := (cutAtUnderscore_eq_none part).mp hcut
          rw [resolvePart_of_named _ entity part hnil hplain,
            resolvePart_of_named _ entity part hnil hplain, named?_of_agree hagree entity hentity]
          congr 1
          exact findSome?_congr fun cut hmem =>
            hstep cut.1.reverse cut.2 (capitalCuts_shorter hmem)

namespace Criteria

theorem resolveParts_of_agree (root : String) (hroot : schema.contains root)
    (parts : List String) :
    resolveParts larger.toDeclarations root parts = resolveParts schema.toDeclarations root parts := by
  induction parts with
  | nil => rfl
  | cons part rest ih =>
      rw [resolveParts, resolveParts, resolvePart_of_agree hagree root hroot, ih]

theorem resolve_of_agree (root : String) (hroot : schema.contains root)
    (hlarger : larger.contains root) (name : MethodName) :
    resolve larger root name = resolve schema root name := by
  rw [resolve, resolve, if_pos hroot, if_pos hlarger, resolveParts_of_agree hagree root hroot]

theorem flaw?_of_agree (root : String) (hroot : schema.contains root) (criteria : Criteria) :
    criteria.flaw? larger root = criteria.flaw? schema root := by
  have hpredicate : predicateFlaw? larger root = predicateFlaw? schema root := by
    funext predicate
    simp only [predicateFlaw?, (hagree root hroot).property?_eq,
      (hagree root hroot).isAssignable_eq]
  rw [flaw?, flaw?, boundaryFlaw?, boundaryFlaw?, hpredicate]

end Criteria

namespace Statement

theorem conditions_of_agree (root : String) (hroot : schema.contains root) (table : String)
    (parameters : List Parameter) :
    conditions larger.toDeclarations root table parameters =
      conditions schema.toDeclarations root table parameters := by
  induction parameters with
  | nil => rfl
  | cons parameter rest ih =>
      simp only [conditions, (hagree root hroot).property?_eq, ih]

-- What stands in a statement for a property of the root names the table and the properties of the
-- entity that it refers to, if it refers to one.
theorem outputs_of_agree (table : String) (found : OwnedProperty)
    (htarget : ∀ target, found.property.type = .entity target → schema.contains target) :
    outputs larger.toDeclarations table found = outputs schema.toDeclarations table found := by
  unfold outputs
  cases ht : found.property.type with
  | scalar kind => rfl
  | entity target =>
      simp only [childOutputs, (hagree target (htarget target ht)).properties?_eq]

theorem join?_of_agree (table idColumn : String) (found : OwnedProperty)
    (htarget : ∀ target, found.property.type = .entity target → schema.contains target) :
    join? larger.toDeclarations table idColumn found =
      join? schema.toDeclarations table idColumn found := by
  unfold join?
  cases ht : found.property.type with
  | scalar kind => rfl
  | entity target => simp only [(hagree target (htarget target ht)).tableName?_eq]

theorem find_of_agree (root : String) (hroot : schema.contains root) (parameters : Parameters) :
    find larger root parameters = find schema root parameters := by
  have hsame := hagree root hroot
  obtain ⟨table, idColumn, properties, htable, hid, hproperties⟩ := schema.exists_names root hroot
  have htarget : ∀ found ∈ properties, ∀ target, found.property.type = .entity target →
      schema.contains target := by
    intro found hmem target ht
    have hvisible := (schema.mem_properties?_iff root properties hproperties found).mp hmem
    exact schema.contains_of_refers root _ found hvisible target ht
  have houtputs : properties.flatMap (outputs larger.toDeclarations table) =
      properties.flatMap (outputs schema.toDeclarations table) :=
    List.flatMap_congr fun found hmem => outputs_of_agree hagree table found (htarget found hmem)
  have hjoins : properties.filterMap (join? larger.toDeclarations table idColumn) =
      properties.filterMap (join? schema.toDeclarations table idColumn) :=
    List.filterMap_congr fun found hmem =>
      join?_of_agree hagree table idColumn found (htarget found hmem)
  rw [find_of_names schema root parameters table idColumn properties htable hid hproperties,
    find_of_names larger root parameters table idColumn properties
      (hsame.tableName?_eq.trans htable) (hsame.idColumn?_eq.trans hid)
      (hsame.properties?_eq.trans hproperties),
    conditions_of_agree hagree root hroot, houtputs, hjoins]

theorem countAll_of_agree (root : String) (hroot : schema.contains root) :
    countAll larger root = countAll schema root := by
  rw [countAll, countAll, (hagree root hroot).tableName?_eq]

end Statement

namespace Query

theorem plan_of_agree (root : String) (hroot : schema.contains root) (verb : Verb)
    (parameters : Parameters) : plan larger root verb parameters = plan schema root verb parameters := by
  unfold plan
  rw [Statement.countAll_of_agree hagree root hroot,
    Statement.find_of_agree hagree root hroot parameters]

end Query

end

namespace Query

theorem compile_of_agree {schema larger : Schema}
    (hagree : ∀ name, schema.contains name → schema.AgreesOn larger name) (root : String)
    (hroot : schema.contains root) (hlarger : larger.contains root) (method : String) :
    compile larger root method = compile schema root method := by
  simp only [compile, compileFor, derive, Criteria.resolve_of_agree hagree root hroot hlarger,
    Criteria.flaw?_of_agree hagree root hroot, plan_of_agree hagree root hroot]

-- Entities that are declared besides those of a schema change nothing that it says of its own
-- entities, and no compilation on one of these.
theorem compile_local (schema larger : Schema) (hpart : schema.entities ⊆ larger.entities) :
    (∀ root, schema.contains root → ∀ method,
        compile larger root method = compile schema root method) ∧
      ∀ name, schema.contains name → schema.AgreesOn larger name := by
  have hagree : ∀ name, schema.contains name → schema.AgreesOn larger name :=
    Schema.agreesOn_of_part hpart
  refine ⟨fun root hroot method => ?_, hagree⟩
  obtain ⟨entity, hentity⟩ := (schema.contains_iff root).mp hroot
  have hlarger : larger.contains root :=
    (larger.contains_iff root).mpr ⟨entity, Schema.entity?_of_part hpart root hroot ▸ hentity⟩
  exact compile_of_agree hagree root hroot hlarger method

-- The keepers and their pets, with cats, which have names of their own, and a zoo around all of them.
def zoo : Schema where
  entities := [
    ⟨"Animal", none, "id", none, [⟨"id", .scalar .integer, none⟩,
      ⟨"nickName", .scalar .text, none⟩]⟩,
    ⟨"Cat", none, "id", some "Pet", [⟨"nickName", .entity "Animal", none⟩]⟩,
    ⟨"Keeper", none, "id", none, [⟨"id", .scalar .integer, none⟩, ⟨"pet", .entity "Pet", none⟩]⟩,
    ⟨"Pet", none, "id", some "Animal", [⟨"keeper", .entity "Keeper", none⟩]⟩,
    ⟨"Zoo", none, "code", none, [⟨"code", .scalar .text, none⟩,
      ⟨"keeper", .entity "Keeper", none⟩]⟩]
  ascending := by decide +kernel
  named := by decide +kernel
  flawless := by decide +kernel

theorem compile_local_zoo : keepers.entities ⊆ zoo.entities ∧ keepers.contains "Keeper" ∧
    compile zoo "Keeper" "findByPetNickName" =
      .error ⟨"findByPetNickName", .outsideAggregate "pet.nickName" "Pet" "Keeper"⟩ ∧
    keepers.contains "Pet" ∧ keepers.AgreesOn zoo "Pet" := by
  have hpart : keepers.entities ⊆ zoo.entities := by decide +kernel
  have hkeeper : keepers.contains "Keeper" := by decide +kernel
  have hpet : keepers.contains "Pet" := by decide +kernel
  obtain ⟨hcompile, hagree⟩ := compile_local keepers zoo hpart
  have hviolation : compile keepers "Keeper" "findByPetNickName" =
      .error ⟨"findByPetNickName", .outsideAggregate "pet.nickName" "Pet" "Keeper"⟩ := by
    decide +kernel
  refine ⟨hpart, hkeeper, ?_, hpet, hagree "Pet" hpet⟩
  rw [hcompile "Keeper" hkeeper, hviolation]

end Query

end Finder
