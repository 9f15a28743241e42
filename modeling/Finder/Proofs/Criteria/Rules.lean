import Finder.Criteria
import Finder.Proofs.Lists

namespace Finder

namespace Criteria

theorem connectorFlaw?_eq_none_iff (criteria : Criteria) :
    criteria.connectorFlaw? = none ↔ ∀ connector ∈ criteria.connectors, connector = .and := by
  simp [connectorFlaw?]

theorem connectorFlaw?_eq_some_iff (criteria : Criteria) (violation : Violation) :
    criteria.connectorFlaw? = some violation ↔
      .or ∈ criteria.connectors ∧ violation = .unsupportedConnector .or := by
  rw [connectorFlaw?, Option.map_eq_some_iff]
  constructor
  · rintro ⟨connector, hfind, rfl⟩
    have hm := List.mem_of_find?_eq_some hfind
    have hne := List.find?_some hfind
    cases connector with
    | and => cases hne
    | or => exact ⟨hm, rfl⟩
  · rintro ⟨hm, rfl⟩
    have hsome : (criteria.connectors.find? fun connector => connector != .and).isSome :=
      List.find?_isSome.mpr ⟨.or, hm, rfl⟩
    obtain ⟨connector, hfind⟩ := Option.isSome_iff_exists.mp hsome
    have hne := List.find?_some hfind
    cases connector with
    | and => cases hne
    | or => exact ⟨.or, hfind, rfl⟩

theorem predicateFlaw?_eq_none_iff (schema : Schema) (root : String) (predicate : Predicate) :
    predicateFlaw? schema root predicate = none ↔
      predicate.path.length ≤ 1 ∧ schema.isAssignable predicate.owner root := by
  unfold predicateFlaw?
  split
  · next h => simp; omega
  · next h => simp; omega

theorem boundaryFlaw?_eq_none_iff (schema : Schema) (root : String) (criteria : Criteria) :
    criteria.boundaryFlaw? schema root = none ↔ ∀ predicate ∈ criteria.predicates,
      predicate.path.length ≤ 1 ∧ schema.isAssignable predicate.owner root := by
  simp only [boundaryFlaw?, List.findSome?_eq_none_iff, predicateFlaw?_eq_none_iff]

theorem predicateFlaw?_of_reference (schema : Schema) (root : String) (predicate : Predicate)
    (reference : OwnedProperty) (target : String) (hlength : 1 < predicate.path.length)
    (hreference : schema.property? root predicate.first = some reference)
    (htarget : reference.property.type = .entity target) :
    predicateFlaw? schema root predicate =
      some (.outsideAggregate predicate.dotted target root) := by
  rw [predicateFlaw?, if_pos hlength, hreference, Option.bind_some, htarget]
  rfl

-- Where the root owns what it sees, only paths through references leave the aggregate.
theorem boundaryFlaw?_eq_some_iff (schema : Schema) (root : String) (criteria : Criteria)
    (violation : Violation) (howned : ∀ predicate ∈ criteria.predicates,
      predicate.path.length ≤ 1 → schema.isAssignable predicate.owner root) :
    criteria.boundaryFlaw? schema root = some violation ↔ ∃ predicate,
      IsFirst (fun other => 1 < other.path.length) criteria.predicates predicate ∧
        predicateFlaw? schema root predicate = some violation := by
  have hsome (predicate : Predicate) (hm : predicate ∈ criteria.predicates) :
      ¬predicateFlaw? schema root predicate = none ↔ 1 < predicate.path.length := by
    rw [predicateFlaw?_eq_none_iff, ← Nat.not_le, not_iff_not]
    exact ⟨And.left, fun hlength => ⟨hlength, howned predicate hm hlength⟩⟩
  rw [boundaryFlaw?, findSome?_eq_some_iff_isFirst]
  refine exists_congr fun predicate => and_congr_left' ⟨fun hfirst => ?_, fun hfirst => ?_⟩
  · exact hfirst.congr hsome
  · exact hfirst.congr fun other hm => (hsome other hm).symm

theorem columnFlaw?_eq_some_iff (criteria : Criteria) (violation : Violation) :
    criteria.columnFlaw? = some violation ↔ ∃ predicate,
      IsFirst (fun other => ∃ target, other.type = .entity target) criteria.predicates predicate ∧
        violation = .entityValued predicate.dotted := by
  have htype (type : PropertyType) : type.target?.isSome ↔ ∃ target, type = .entity target := by
    cases type <;> simp [PropertyType.target?]
  simp only [columnFlaw?, Option.map_eq_some_iff, find?_eq_some_iff_isFirst, htype]
  exact exists_congr fun predicate => and_congr_right fun _ => eq_comm

theorem columnFlaw?_eq_none_iff (criteria : Criteria) :
    criteria.columnFlaw? = none ↔
      ∀ predicate ∈ criteria.predicates, ∃ kind, predicate.type = .scalar kind := by
  have htype (type : PropertyType) : ¬type.target?.isSome ↔ ∃ kind, type = .scalar kind := by
    cases type <;> simp [PropertyType.target?]
  simp only [columnFlaw?, Option.map_eq_none_iff, List.find?_eq_none, htype]

theorem arityFlaw?_eq_none_iff (criteria : Criteria) :
    criteria.arityFlaw? = none ↔ criteria.predicates.length ≤ 2 := by
  unfold arityFlaw? maxPredicates
  split
  · next h => simp; omega
  · next h => simp; omega

theorem arityFlaw?_eq_some_iff (criteria : Criteria) (violation : Violation) :
    criteria.arityFlaw? = some violation ↔
      2 < criteria.predicates.length ∧ violation = .tooManyPredicates criteria.predicates.length := by
  unfold arityFlaw? maxPredicates
  split
  · next h => simp [h, eq_comm]
  · next h => simp [h]

theorem emptinessFlaw?_eq_some_iff (criteria : Criteria) (violation : Violation) :
    criteria.emptinessFlaw? = some violation ↔
      criteria.predicates = [] ∧ violation = .noCondition := by
  unfold emptinessFlaw?
  split
  · next h => simp [h, eq_comm]
  · next h => simp [h]

theorem emptinessFlaw?_eq_none_iff (criteria : Criteria) :
    criteria.emptinessFlaw? = none ↔ criteria.predicates ≠ [] := by
  simp [emptinessFlaw?]

theorem flaw?_eq_none_iff (schema : Schema) (root : String) (criteria : Criteria) :
    criteria.flaw? schema root = none ↔
      (∀ connector ∈ criteria.connectors, connector = .and) ∧
        (∀ predicate ∈ criteria.predicates,
          predicate.path.length ≤ 1 ∧ schema.isAssignable predicate.owner root) ∧
        (∀ predicate ∈ criteria.predicates, ∃ kind, predicate.type = .scalar kind) ∧
        criteria.predicates.length ≤ 2 ∧ criteria.predicates ≠ [] := by
  simp only [flaw?, Option.or_eq_none_iff, connectorFlaw?_eq_none_iff, boundaryFlaw?_eq_none_iff,
    columnFlaw?_eq_none_iff, arityFlaw?_eq_none_iff, emptinessFlaw?_eq_none_iff]

-- A rule is only looked at where those before it found nothing.
theorem flaw?_eq_some_iff (schema : Schema) (root : String) (criteria : Criteria)
    (violation : Violation) :
    criteria.flaw? schema root = some violation ↔
      criteria.connectorFlaw? = some violation ∨ criteria.connectorFlaw? = none ∧
        (criteria.boundaryFlaw? schema root = some violation ∨
          criteria.boundaryFlaw? schema root = none ∧
            (criteria.columnFlaw? = some violation ∨ criteria.columnFlaw? = none ∧
              (criteria.arityFlaw? = some violation ∨ criteria.arityFlaw? = none ∧
                criteria.emptinessFlaw? = some violation))) := by
  simp only [flaw?, Option.or_eq_some_iff]

end Criteria

end Finder
