import Finder.Parameters
import Finder.Proofs.Lists

namespace Finder

-- The statement refers to the parameter of a predicate by the last name on the path.
structure Parameter.Serves (parameter : Parameter) (predicate : Predicate) : Prop where
  name_eq : parameter.name = predicate.leaf
  reference_eq : parameter.reference = ":" ++ predicate.leaf
  type_eq : parameter.type = predicate.type

-- The first predicate whose path ends like that of a predicate before it.
def FirstRepeated (predicates : List Predicate) (predicate : Predicate) : Prop :=
  ∃ before after, predicates = before ++ predicate :: after ∧
    (before.map Predicate.leaf).Nodup ∧ predicate.leaf ∈ before.map Predicate.leaf

namespace Parameters

variable {parameters : Parameters} {parameter : Parameter}

theorem contains_iff (parameters : Parameters) (name : String) :
    parameters.contains name ↔ name ∈ parameters.names := by
  simp [contains, get?, names]

theorem insert_of_mem (h : parameter.name ∈ parameters.names) :
    parameters.insert parameter = ⟨parameters, some parameter⟩ := by
  rw [insert, insert?, if_pos ((contains_iff _ _).mpr h)]

theorem insert_of_not_mem (h : parameter.name ∉ parameters.names) :
    parameters.insert parameter = ⟨⟨parameters.entries ++ [parameter]⟩, none⟩ := by
  rw [insert, insert?, if_neg (mt (contains_iff _ _).mp h)]

theorem insertAll_of_mem (rest : List Parameter) (h : parameter.name ∈ parameters.names) :
    parameters.insertAll (parameter :: rest) = .error (.repeatedProperty parameter.name) := by
  rw [insertAll, insert_of_mem h]

theorem insertAll_of_not_mem (rest : List Parameter) (h : parameter.name ∉ parameters.names) :
    parameters.insertAll (parameter :: rest) =
      insertAll ⟨parameters.entries ++ [parameter]⟩ rest := by
  rw [insertAll, insert_of_not_mem h]

theorem insertAll_eq_ok_iff (parameters : Parameters) (added : List Parameter)
    (result : Parameters) :
    parameters.insertAll added = .ok result ↔
      (added.map Parameter.name).Nodup ∧ (∀ parameter ∈ added, parameter.name ∉ parameters.names) ∧
        result = ⟨parameters.entries ++ added⟩ := by
  induction added generalizing parameters with
  | nil => simp [insertAll, eq_comm]
  | cons parameter rest ih =>
      by_cases hm : parameter.name ∈ parameters.names
      · simp [insertAll_of_mem rest hm, hm]
      · simp only [insertAll_of_not_mem rest hm, ih, List.map_cons, List.nodup_cons,
          List.forall_mem_cons, names, List.map_append, List.map_nil, List.mem_append,
          List.mem_singleton, List.append_assoc, List.singleton_append]
        constructor
        · rintro ⟨hn, hnew, rfl⟩
          refine ⟨⟨?_, hn⟩, ⟨hm, fun other ho he => hnew other ho (.inl he)⟩, rfl⟩
          intro h
          obtain ⟨other, ho, he⟩ := List.mem_map.mp h
          exact hnew other ho (.inr he)
        · rintro ⟨⟨hp, hn⟩, ⟨_, hnew⟩, rfl⟩
          refine ⟨hn, ?_, rfl⟩
          rintro other ho (he | he)
          · exact hnew other ho he
          · exact hp (List.mem_map.mpr ⟨other, ho, he⟩)

-- A parameter is refused when its name is one of those that were taken before it.
theorem insertAll_eq_error_iff (parameters : Parameters) (added : List Parameter)
    (violation : Violation) :
    parameters.insertAll added = .error violation ↔ ∃ before parameter after inserted,
      added = before ++ parameter :: after ∧ parameters.insertAll before = .ok inserted ∧
        parameter.name ∈ inserted.names ∧ violation = .repeatedProperty parameter.name := by
  induction added generalizing parameters with
  | nil => simp [insertAll]
  | cons first rest ih =>
      by_cases hm : first.name ∈ parameters.names
      · rw [insertAll_of_mem rest hm, Except.error.injEq]
        constructor
        · rintro rfl
          exact ⟨[], first, rest, parameters, rfl, rfl, hm, rfl⟩
        · rintro ⟨before, parameter, after, inserted, he, hi, hp, rfl⟩
          cases before with
          | nil =>
              obtain ⟨rfl, rfl⟩ := List.cons.inj he
              rfl
          | cons other before =>
              obtain ⟨rfl, rfl⟩ := List.cons.inj he
              rw [insertAll_of_mem before hm] at hi
              cases hi
      · rw [insertAll_of_not_mem rest hm, ih]
        constructor
        · rintro ⟨before, parameter, after, inserted, rfl, hi, hp, rfl⟩
          refine ⟨first :: before, parameter, after, inserted, rfl, ?_, hp, rfl⟩
          rw [insertAll_of_not_mem before hm, hi]
        · rintro ⟨before, parameter, after, inserted, he, hi, hp, rfl⟩
          cases before with
          | nil =>
              obtain ⟨rfl, rfl⟩ := List.cons.inj he
              obtain rfl : parameters = inserted := Except.ok.inj hi
              exact absurd hp hm
          | cons other before =>
              obtain ⟨rfl, rfl⟩ := List.cons.inj he
              rw [insertAll_of_not_mem before hm] at hi
              exact ⟨before, parameter, after, inserted, rfl, hi, hp, rfl⟩

-- A single predicate is not treated apart.
theorem ofCriteria_eq_insertAll (criteria : Criteria) :
    ofCriteria criteria = empty.insertAll (criteria.predicates.map ofPredicate) := by
  rw [ofCriteria]
  split
  · next only hp =>
    rw [hp, List.map_singleton, insertAll_of_not_mem [] (by simp [empty, names])]
    rfl
  · rfl

-- Parameters are made unless two predicates compare properties of one name.
theorem ofCriteria_eq_ok_iff (criteria : Criteria) (parameters : Parameters) :
    ofCriteria criteria = .ok parameters ↔ (criteria.predicates.map Predicate.leaf).Nodup ∧
      parameters = ⟨criteria.predicates.map ofPredicate⟩ := by
  simp only [ofCriteria_eq_insertAll, insertAll_eq_ok_iff, List.map_map, empty, names, List.map_nil,
    List.not_mem_nil, not_false_eq_true, implies_true, true_and, List.nil_append]
  rfl

-- Otherwise the first predicate is named that compares a property of a name taken before.
theorem ofCriteria_eq_error_iff (criteria : Criteria) (violation : Violation) :
    ofCriteria criteria = .error violation ↔ ∃ predicate,
      FirstRepeated criteria.predicates predicate ∧
        violation = .repeatedProperty predicate.leaf := by
  simp only [ofCriteria_eq_insertAll, insertAll_eq_error_iff, List.map_eq_append_iff,
    List.map_eq_cons_iff, insertAll_eq_ok_iff]
  constructor
  · rintro ⟨_, _, _, _, ⟨before, _, hp, rfl, predicate, after, rfl, rfl, rfl⟩, ⟨hn, _, rfl⟩, hm, rfl⟩
    refine ⟨predicate, ⟨before, after, hp, ?_, ?_⟩, rfl⟩
    · rw [List.map_map] at hn
      exact hn
    · simp only [names, empty, List.nil_append, List.map_map] at hm
      exact hm
  · rintro ⟨predicate, ⟨before, after, hp, hn, hm⟩, rfl⟩
    refine ⟨before.map ofPredicate, ofPredicate predicate, after.map ofPredicate, _,
      ⟨before, _, hp, rfl, predicate, after, rfl, rfl, rfl⟩, ⟨?_, ?_, rfl⟩, ?_, rfl⟩
    · rw [List.map_map]
      exact hn
    · simp [empty, names]
    · simp only [names, empty, List.nil_append, List.map_map]
      exact hm

-- Criteria get a parameter for each predicate, in the order of the predicates, unless two paths end
-- in one name. Then the first predicate is named that ends like one before it.
theorem ofCriteria_serves (criteria : Criteria) :
    ((∃ parameters, ofCriteria criteria = .ok parameters) ↔
        (criteria.predicates.map Predicate.leaf).Nodup) ∧
      (∀ parameters, ofCriteria criteria = .ok parameters →
        List.Forall₂ Parameter.Serves parameters.entries criteria.predicates) ∧
      (∀ violation, ofCriteria criteria = .error violation ↔ ∃ predicate,
        FirstRepeated criteria.predicates predicate ∧
          violation = .repeatedProperty predicate.leaf) ∧
      ofCriteria criteria = empty.insertAll (criteria.predicates.map ofPredicate) := by
  refine ⟨?_, fun parameters hok => ?_, ofCriteria_eq_error_iff criteria,
    ofCriteria_eq_insertAll criteria⟩
  · simp only [ofCriteria_eq_ok_iff, exists_and_left, exists_eq, and_true]
  · obtain ⟨_, rfl⟩ := (ofCriteria_eq_ok_iff _ _).mp hok
    rw [List.forall₂_map_left_iff, List.forall₂_same]
    exact fun predicate _ => ⟨rfl, rfl, rfl⟩

-- Paths that lead to different entities can end in one name.
example : ofCriteria ⟨.find, none, [⟨["pet", "name"], .scalar .text, "Animal"⟩,
    ⟨["name"], .scalar .text, "Keeper"⟩], [.and]⟩ = .error (.repeatedProperty "name") := by
  decide

end Parameters

end Finder
