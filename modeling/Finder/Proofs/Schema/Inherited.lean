import Finder.Proofs.Schema.Extension

namespace Finder

namespace Schema

-- No entity on the way from the lower one up to the upper one declares the name. What the upper one
-- declares itself is left open.
def Undisturbed (schema : Schema) (lower upper name : String) : Prop :=
  ∀ low between high, schema.entity? lower = some low → schema.entity? upper = some high →
    Relation.ReflTransGen schema.Inherits low between →
      Relation.TransGen schema.Inherits between high → ¬between.Declares name

variable {schema : Schema}

-- The bound on the steps of a lineage leaves room for one more, since every lineage ends before it.
theorem lineageOf_of_inherits (lower upper : Entity) (hmem : lower ∈ schema.entities)
    (h : schema.Inherits lower upper) :
    schema.lineageOf lower = lower :: schema.lineageOf upper := by
  obtain ⟨steps, hsteps⟩ := Nat.exists_eq_succ_of_ne_zero
    (List.length_pos_of_mem hmem).ne'
  have hends := endsWithin_of_mem lower hmem
  rw [hsteps, Declarations.endsWithin, h] at hends
  rw [Declarations.lineageOf, hsteps, Declarations.lineageWithin, h, Declarations.lineageOf, hsteps]
  dsimp only
  rw [Declarations.lineageWithin_of_le steps steps.succ (Nat.le_succ steps) hends]

-- Going up by one entity changes a look-up only where that entity declares the name.
theorem findSome?_lineageOf_of_reaches (lower upper : Entity) (name : String)
    (hmem : lower ∈ schema.entities) (hreaches : Relation.ReflTransGen schema.Inherits lower upper)
    (h : ∀ between, Relation.ReflTransGen schema.Inherits lower between →
      Relation.TransGen schema.Inherits between upper → ¬between.Declares name) :
    (schema.lineageOf lower).findSome? (Declarations.ownedBy? name) =
      (schema.lineageOf upper).findSome? (Declarations.ownedBy? name) := by
  induction hreaches using Relation.ReflTransGen.head_induction_on with
  | refl => rfl
  | @head lower next hstep hrest ih =>
      have hnone : Declarations.ownedBy? name lower = none :=
        (Declarations.ownedBy?_eq_none_iff name lower).mpr (h lower .refl (.head' hstep hrest))
      rw [lineageOf_of_inherits lower next hmem hstep, List.findSome?_cons, hnone]
      exact ih (mem_of_inherits lower next hstep) fun between hup => h between (.head hstep hup)

theorem property?_of_undisturbed (lower upper name : String)
    (hassignable : schema.isAssignable upper lower) (h : schema.Undisturbed lower upper name) :
    schema.property? lower name = schema.property? upper name := by
  obtain ⟨low, high, hlow, hhigh, hreaches⟩ := (isAssignable_iff _ _).mp hassignable
  rw [Declarations.property?, Declarations.property?, schema.lineage?_of_entity? lower low hlow,
    schema.lineage?_of_entity? upper high hhigh, Option.bind_some, Option.bind_some]
  exact findSome?_lineageOf_of_reaches low high name (schema.entity?_eq_some lower low hlow).1
    hreaches fun between => h low between high hlow hhigh

-- No way comes back to where it started, so it is enough that whatever declares the name on the line
-- of the lower entity stands on the line of the upper one.
theorem undisturbed_of_lineages (lower upper : String) (low high : Entity) (name : String)
    (hlow : schema.entity? lower = some low) (hhigh : schema.entity? upper = some high)
    (h : ∀ between ∈ schema.lineageOf low, between.Declares name →
      between ∈ schema.lineageOf high) : schema.Undisturbed lower upper name := by
  intro low' between high' hlow' hhigh' hreaches hproper hdeclares
  obtain rfl := Option.some.inj (hlow.symm.trans hlow')
  obtain rfl := Option.some.inj (hhigh.symm.trans hhigh')
  have hmem := (schema.entity?_eq_some lower low hlow).1
  have hmem' := (schema.entity?_eq_some upper high hhigh).1
  have hbetween := h between ((mem_lineageOf_iff low hmem between).mpr hreaches) hdeclares
  have hback := (mem_lineageOf_iff high hmem' between).mp hbetween
  have hends := Declarations.ends_of_endsWithin _ (endsWithin_of_mem high hmem')
  exact hends.not_reaches_self (.trans_right hback hproper)

end Schema

end Finder
