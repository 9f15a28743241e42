import Finder.Proofs.Schema.Defects
import Finder.Proofs.Schema.Listing

namespace Finder

namespace Declarations

variable {entities others : List Entity}

-- Entities of different names have one order by name.
theorem byName_eq_of_perm (hperm : entities.Perm others)
    (hdistinct : (entities.map Entity.name).Nodup) : byName entities = byName others := by
  have hascending := byName_ascending entities hdistinct
  have hascending' := byName_ascending others ((hperm.map Entity.name).nodup_iff.mp hdistinct)
  have hsame : (byName entities).entities.Perm (byName others).entities :=
    (byName_perm entities).trans (hperm.trans (byName_perm others).symm)
  have hequal : (byName entities).entities = (byName others).entities := by
    refine hsame.eq_of_pairwise ?_ hascending hascending'
    intro first second _ _ hbefore hafter
    exact absurd (String.lt_trans hbefore hafter) (String.lt_irrefl _)
  exact congrArg Declarations.mk hequal

theorem nameFlaw?_eq_none_iff_of_perm (hperm : entities.Perm others) :
    nameFlaw? [] entities = none ↔ nameFlaw? [] others = none := by
  rw [nameFlaw?_eq_none_iff, nameFlaw?_eq_none_iff, (hperm.map Entity.name).nodup_iff]
  simp only [hperm.mem_iff]

-- Which name is found to be wrong may depend on the order.
example :
    let blank : Entity := ⟨" ", none, "id", none, []⟩
    let cat : Entity := ⟨"Cat", none, "id", none, []⟩
    nameFlaw? [] [blank, cat, cat] = some .blankEntityName ∧
      nameFlaw? [] [cat, cat, blank] = some (.repeatedEntity "Cat") := by
  decide +kernel

end Declarations

namespace Schema

variable {entities others : List Entity}

theorem ofEntities_eq_of_perm (hperm : entities.Perm others)
    (hnames : Declarations.nameFlaw? [] entities = none) :
    ofEntities entities = ofEntities others := by
  have hdistinct := ((Declarations.nameFlaw?_eq_none_iff entities).mp hnames).2
  have hsame := Declarations.byName_eq_of_perm hperm hdistinct
  have hnames' := (Declarations.nameFlaw?_eq_none_iff_of_perm hperm).mp hnames
  symm
  cases h : ofEntities entities with
  | ok schema =>
      obtain ⟨_, hflaw, hdeclared⟩ := (ofEntities_eq_ok_iff entities schema).mp h
      rw [hsame] at hflaw hdeclared
      exact (ofEntities_eq_ok_iff others schema).mpr ⟨hnames', hflaw, hdeclared⟩
  | error error =>
      rcases (ofEntities_eq_error_iff entities error).mp h with hname | ⟨_, hflaw⟩
      · cases hnames.symm.trans hname
      · rw [hsame] at hflaw
        exact (ofEntities_eq_error_iff others error).mpr (.inr ⟨hnames', hflaw⟩)

-- Declarations may be given in any order. A schema is the same whatever the order, and so is an error
-- unless it is about names that are blank or repeated.
theorem ofEntities_perm (entities others : List Entity) (hperm : entities.Perm others) :
    (∀ schema, ofEntities entities = .ok schema ↔ ofEntities others = .ok schema) ∧
      ((∃ error, ofEntities entities = .error error) ↔
        ∃ error, ofEntities others = .error error) ∧
      ((∀ entity ∈ entities, Text.isBlank entity.name = false) →
        (entities.map Entity.name).Nodup →
          ∀ error, ofEntities entities = .error error ↔ ofEntities others = .error error) := by
  have hiff := Declarations.nameFlaw?_eq_none_iff_of_perm hperm
  cases hname : Declarations.nameFlaw? [] entities with
  | none =>
      rw [ofEntities_eq_of_perm hperm hname]
      simp
  | some found =>
      have hname' : Declarations.nameFlaw? [] others ≠ none := by simp [← hiff, hname]
      obtain ⟨other, hother⟩ := Option.ne_none_iff_exists'.mp hname'
      have herror := (ofEntities_eq_error_iff entities found).mpr (.inl hname)
      have herror' := (ofEntities_eq_error_iff others other).mpr (.inl hother)
      refine ⟨?_, ⟨fun _ => ⟨other, herror'⟩, fun _ => ⟨found, herror⟩⟩, ?_⟩
      · simp [herror, herror']
      · intro hnamed hdistinct
        have hnone := (Declarations.nameFlaw?_eq_none_iff entities).mpr ⟨hnamed, hdistinct⟩
        cases hname.symm.trans hnone

-- A chain that hangs on a ring.
def chained : List Entity := [
  ⟨"Chain", none, "id", some "Ring", []⟩,
  ⟨"Loose", none, "id", none, []⟩,
  ⟨"Ring", none, "id", some "Ring", []⟩]

theorem ofEntities_chained : ofEntities chained = .error (.endlessLineage "Chain") := by
  have hsorted : Declarations.byName chained = ⟨chained⟩ := by
    rw [Declarations.byName, List.mergeSort_of_pairwise]
    decide +kernel
  have hflaw : (Declarations.mk chained).flaw? = some (.endlessLineage "Chain") := by
    decide +kernel
  refine (ofEntities_eq_error_iff _ _).mpr (.inr ⟨by decide +kernel, ?_⟩)
  rw [hsorted, hflaw]

theorem ofEntities_perm_reverse :
    kennel.entities.Perm kennel.entities.reverse ∧
      ofEntities kennel.entities.reverse = .ok kennel ∧
      chained.Perm chained.reverse ∧ (∀ entity ∈ chained, Text.isBlank entity.name = false) ∧
      (chained.map Entity.name).Nodup ∧
      ofEntities chained.reverse = .error (.endlessLineage "Chain") := by
  have hkennel : kennel.entities.Perm kennel.entities.reverse := (List.reverse_perm _).symm
  have hchained : chained.Perm chained.reverse := (List.reverse_perm _).symm
  have hnamed : ∀ entity ∈ chained, Text.isBlank entity.name = false := by decide +kernel
  have hdistinct : (chained.map Entity.name).Nodup := by decide +kernel
  obtain ⟨hok, _⟩ := ofEntities_perm _ _ hkennel
  obtain ⟨_, _, herror⟩ := ofEntities_perm _ _ hchained
  exact ⟨hkennel, (hok kennel).mp (ofEntities_entities kennel), hchained, hnamed, hdistinct,
    (herror hnamed hdistinct _).mp ofEntities_chained⟩

end Schema

end Finder
