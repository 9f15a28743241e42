import Mathlib.Data.List.Perm.Subperm
import Mathlib.Logic.Relation
import Mathlib.Order.WellFounded
import Finder.Proofs.Schema.Visible

namespace Finder

namespace Declarations

-- The second entity is the one that the first inherits from.
def Inherits (declared : Declarations) (first second : Entity) : Prop :=
  declared.supertype? first = some second

-- No lineage can be followed forever from here.
def Ends (declared : Declarations) (entity : Entity) : Prop :=
  Acc (fun second first => declared.Inherits first second) entity

section

variable {declared : Declarations} {entity : Entity}

theorem ends_of_endsWithin (steps : Nat) (h : declared.endsWithin steps entity) :
    declared.Ends entity := by
  induction steps generalizing entity with
  | zero =>
      refine .intro entity fun other hother => ?_
      rw [endsWithin, Option.isNone_iff_eq_none] at h
      rw [Inherits, h] at hother
      cases hother
  | succ steps ih =>
      refine .intro entity fun other hother => ?_
      rw [endsWithin, hother] at h
      exact ih h

theorem length_lineageWithin (steps : Nat) (h : declared.endsWithin steps entity = false) :
    (declared.lineageWithin steps entity).length = steps + 1 := by
  induction steps generalizing entity with
  | zero => rfl
  | succ steps ih =>
      rw [endsWithin] at h
      rw [lineageWithin]
      cases hs : declared.supertype? entity with
      | none => simp [hs] at h
      | some supertype =>
          simp only [hs] at h
          rw [List.length_cons, ih h]

theorem reaches_of_mem_lineageWithin (steps : Nat) (other : Entity)
    (h : other ∈ declared.lineageWithin steps entity) :
    Relation.ReflTransGen declared.Inherits entity other := by
  induction steps generalizing entity with
  | zero =>
      rw [lineageWithin, List.mem_singleton] at h
      exact h ▸ .refl
  | succ steps ih =>
      rw [lineageWithin] at h
      cases hs : declared.supertype? entity with
      | none =>
          rw [hs, List.mem_singleton] at h
          exact h ▸ .refl
      | some supertype =>
          rw [hs] at h
          rcases List.mem_cons.mp h with rfl | h
          · exact .refl
          · exact .head hs (ih h)

-- Nothing is left out of a lineage that is seen to its end.
theorem mem_lineageWithin_iff (steps : Nat) (h : declared.endsWithin steps entity)
    (other : Entity) :
    other ∈ declared.lineageWithin steps entity ↔
      Relation.ReflTransGen declared.Inherits entity other := by
  refine ⟨reaches_of_mem_lineageWithin steps other, fun hreaches => ?_⟩
  induction steps generalizing entity with
  | zero =>
      rw [endsWithin, Option.isNone_iff_eq_none] at h
      rcases hreaches.cases_head with rfl | ⟨next, hnext, _⟩
      · exact List.mem_singleton_self _
      · rw [Inherits, h] at hnext
        cases hnext
  | succ steps ih =>
      rw [lineageWithin]
      rcases hreaches.cases_head with rfl | ⟨next, hnext, hrest⟩
      · cases declared.supertype? entity <;> simp
      · rw [endsWithin, hnext] at h
        rw [hnext]
        exact List.mem_cons_of_mem _ (ih h hrest)

-- An entity that inherits from itself, on whatever way, can be gone round forever.
theorem Ends.not_reaches_self (h : declared.Ends entity) :
    ¬Relation.TransGen declared.Inherits entity entity := by
  induction h with
  | intro entity _ ih =>
      intro hcycle
      obtain ⟨next, hnext, hback⟩ := Relation.TransGen.head'_iff.mp hcycle
      exact ih next hnext (.tail' hback hnext)

theorem Ends.lineageWithin_nodup (h : declared.Ends entity) (steps : Nat) :
    (declared.lineageWithin steps entity).Nodup := by
  induction steps generalizing entity with
  | zero => exact List.nodup_singleton entity
  | succ steps ih =>
      rw [lineageWithin]
      cases hs : declared.supertype? entity with
      | none => exact List.nodup_singleton entity
      | some supertype =>
          refine List.nodup_cons.mpr ⟨?_, ih (h.inv hs)⟩
          intro hmem
          have hreaches := reaches_of_mem_lineageWithin steps entity hmem
          exact h.not_reaches_self (.head' hs hreaches)

-- Were the end not reached in as many steps as there are entities, one entity too many would be
-- met.
theorem endsWithin_length_iff (hmem : entity ∈ declared.entities) :
    declared.endsWithin declared.entities.length entity ↔ declared.Ends entity := by
  refine ⟨ends_of_endsWithin _, fun hends => ?_⟩
  by_contra hlate
  have hlength := length_lineageWithin declared.entities.length (by simpa using hlate)
  have hnodup := hends.lineageWithin_nodup declared.entities.length
  have hsubset := declared.lineageWithin_subset declared.entities.length entity hmem
  have hle := (List.subperm_of_subset hnodup hsubset).length_le
  omega

-- A lineage that does not end is one that goes on at every step.
theorem not_ends_iff :
    ¬declared.Ends entity ↔ ∃ lineage : Nat → Entity, lineage 0 = entity ∧
      ∀ step, declared.Inherits (lineage step) (lineage (step + 1)) :=
  not_acc_iff_exists_descending_chain

end

end Declarations

end Finder
