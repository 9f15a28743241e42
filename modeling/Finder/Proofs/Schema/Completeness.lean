import Mathlib.Data.List.Chain
import Finder.Proofs.Schema.Listing

namespace Finder

namespace Declarations

variable {declared : Declarations} {entity : Entity} {line : List Entity}

theorem Line.head?_eq (h : declared.Line entity line) : line.head? = some entity := by
  cases h <;> rfl

theorem Line.isChain (h : declared.Line entity line) : line.IsChain declared.Inherits := by
  induction h with
  | top entity _ => exact .singleton entity
  | under entity supertype line hinherits hline ih =>
      refine List.isChain_cons.mpr ⟨fun next hnext => ?_, ih⟩
      rw [hline.head?_eq] at hnext
      exact Option.some.inj hnext ▸ hinherits

theorem Line.exists_top (h : declared.Line entity line) :
    ∃ top, line.getLast? = some top ∧ top.supertype = none := by
  induction h with
  | top entity hnone => exact ⟨entity, rfl, hnone⟩
  | under entity supertype line _ _ ih =>
      obtain ⟨top, hlast, hnone⟩ := ih
      exact ⟨top, by rw [List.getLast?_cons, hlast, Option.getD_some], hnone⟩

-- A walk that may go on for as long as the line sees the line, and would see no more of it later.
theorem Line.lineageWithin_eq (h : declared.Line entity line) (steps : Nat)
    (hle : line.length ≤ steps + 1) : declared.lineageWithin steps entity = line := by
  induction h generalizing steps with
  | top entity hnone =>
      have hsupertype : declared.supertype? entity = none := by
        rw [supertype?, hnone, Option.bind_none]
      cases steps with
      | zero => rfl
      | succ steps => rw [lineageWithin, hsupertype]
  | under entity supertype line hinherits hline ih =>
      have hpos : line ≠ [] := by
        rintro rfl
        cases hline
      cases steps with
      | zero =>
          have hlength := List.length_pos_iff.mpr hpos
          rw [List.length_cons] at hle
          omega
      | succ steps =>
          rw [List.length_cons] at hle
          rw [lineageWithin, hinherits]
          dsimp only
          rw [ih steps (by omega)]

end Declarations

namespace Schema

variable {schema : Schema}

theorem lineageOf_nodup (entity : Entity) (hmem : entity ∈ schema.entities) :
    (schema.lineageOf entity).Nodup := by
  have hends : schema.Ends entity := Declarations.ends_of_endsWithin _ (endsWithin_of_mem entity hmem)
  exact hends.lineageWithin_nodup _

theorem length_lineageOf_le (entity : Entity) (hmem : entity ∈ schema.entities) :
    (schema.lineageOf entity).length ≤ schema.entities.length := by
  have hsubset := schema.lineageWithin_subset schema.entities.length entity hmem
  exact (List.subperm_of_subset (lineageOf_nodup entity hmem) hsubset).length_le

-- The entity of a name with all that it inherits from, each with its supertype after it, up to one
-- that has none.
structure Complete (schema : Schema) (name : String) (lineage : List Entity) : Prop where
  starts : ∃ entity ∈ schema.entities, entity.name = name ∧ lineage.head? = some entity
  follows : lineage.IsChain (InheritsAmong schema.entities)
  ends : ∃ top, lineage.getLast? = some top ∧ top.supertype = none
  names_nodup : (lineage.map Entity.name).Nodup
  length_le : lineage.length ≤ schema.entities.length
  -- The bound on the steps does not show. One step less is enough, and more steps give the same.
  unbounded : ∀ entity steps, lineage.head? = some entity →
    schema.entities.length ≤ steps + 1 → schema.lineageWithin steps entity = lineage

theorem lineage_complete (schema : Schema) (name : String) (hknown : schema.contains name) :
    ∃ lineage, schema.lineage? name = some lineage ∧ schema.Complete name lineage := by
  obtain ⟨entity, hentity⟩ := (schema.contains_iff name).mp hknown
  obtain ⟨hmem, hname⟩ := schema.entity?_eq_some name entity hentity
  have hline := line_lineageOf entity hmem
  have hnodup := lineageOf_nodup entity hmem
  have hsubset := schema.lineageWithin_subset schema.entities.length entity hmem
  have hlength := length_lineageOf_le entity hmem
  refine ⟨_, schema.lineage?_of_entity? name entity hentity, ?_⟩
  constructor
  case starts => exact ⟨entity, hmem, hname, hline.head?_eq⟩
  case follows =>
    exact hline.isChain.imp fun lower upper =>
      (Declarations.inherits_iff_among schema.names_nodup lower upper).mp
  case ends => exact hline.exists_top
  case names_nodup =>
    have hinjective := List.inj_on_of_nodup_map schema.names_nodup
    exact hnodup.map_on fun first hfirst second hsecond =>
      hinjective (hsubset first hfirst) (hsubset second hsecond)
  case length_le => exact hlength
  case unbounded =>
    intro other steps hother hsteps
    obtain rfl := Option.some.inj (hline.head?_eq.symm.trans hother)
    exact hline.lineageWithin_eq steps (hlength.trans hsteps)

-- All entities of this schema stand in one line, so that the bound is met.
theorem lineage_complete_dog : kennel.contains "Dog" ∧ ∃ lineage,
    kennel.lineage? "Dog" = some lineage ∧ lineage.length = kennel.entities.length ∧
      kennel.Complete "Dog" lineage := by
  have hknown : kennel.contains "Dog" := by decide +kernel
  have hlength : (kennel.lineage? "Dog").map List.length = some kennel.entities.length := by
    decide +kernel
  obtain ⟨lineage, hlineage, hcomplete⟩ := lineage_complete kennel "Dog" hknown
  rw [hlineage] at hlength
  exact ⟨hknown, lineage, hlineage, Option.some.inj hlength, hcomplete⟩

end Schema

end Finder
