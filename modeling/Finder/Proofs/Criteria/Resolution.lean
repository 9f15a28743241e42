import Finder.Criteria
import Finder.Proofs.Schema.Visible
import Mathlib.Data.List.Forall2

namespace Finder

theorem cutAtUnderscore_eq_none (part : List Char) : cutAtUnderscore part = none ↔ '_' ∉ part := by
  induction part with
  | nil => simp [cutAtUnderscore]
  | cons c rest ih =>
      simp only [cutAtUnderscore]
      split
      · next h => simp [h]
      · next h => simp [ih, Ne.symm h]

namespace Declarations

theorem named?_eq_some_iff (declared : Declarations) (entity : String) (word : List Char)
    (found : OwnedProperty) :
    declared.named? entity word = some found ↔
      declared.property? entity (String.ofList (decapitalize word)) = some found ∨
        declared.property? entity (String.ofList (decapitalize word)) = none ∧
          declared.property? entity (String.ofList (smallFirst word)) = some found :=
  Option.or_eq_some_iff

theorem property?_of_named? (declared : Declarations) (entity : String) (word : List Char)
    (found : OwnedProperty) (h : declared.named? entity word = some found) :
    declared.property? entity found.property.name = some found := by
  rcases (declared.named?_eq_some_iff entity word found).mp h with h | ⟨_, h⟩
  all_goals
    rw [(declared.property?_eq_some entity _ found h).1]
    exact h

theorem reference?_eq_some (declared : Declarations) (entity : String) (word : List Char)
    (found : OwnedProperty) (target : String)
    (h : declared.reference? entity word = some (found, target)) :
    declared.named? entity word = some found ∧ found.property.type = .entity target := by
  obtain ⟨other, hnamed, ht⟩ := Option.bind_eq_some_iff.mp h
  obtain ⟨leads, htarget, he⟩ := Option.map_eq_some_iff.mp ht
  obtain ⟨rfl, rfl⟩ := Prod.mk.inj he
  exact ⟨hnamed, (PropertyType.target?_eq_some_iff _ _).mp htarget⟩

-- A head that names a reference, and the rest resolved on the entity that it leads to.
def step? (declared : Declarations) (entity : String) (head tail : List Char) : Option Predicate :=
  (declared.reference? entity head).bind fun (found, target) =>
    (resolvePart declared target tail).map (.under found)

end Declarations

theorem resolvePart_nil (declared : Declarations) (entity : String) :
    resolvePart declared entity [] = none := by
  rw [resolvePart]

theorem resolvePart_of_underscore (declared : Declarations) (entity : String)
    (part head tail : List Char) (h : cutAtUnderscore part = some (head, tail)) :
    resolvePart declared entity part = declared.step? entity head tail := by
  cases part with
  | nil => cases h
  | cons c rest =>
      rw [resolvePart]
      split
      · next head' tail' h' =>
        obtain ⟨rfl, rfl⟩ : head' = head ∧ tail' = tail := by simpa [h] using h'.symm
        unfold Declarations.step?
        cases declared.reference? entity head' <;> rfl
      · next h' => simp [h] at h'

-- Without an underscore, the whole part comes before all cuts.
theorem resolvePart_of_named (declared : Declarations) (entity : String) (part : List Char)
    (hne : part ≠ []) (h : '_' ∉ part) :
    resolvePart declared entity part = ((declared.named? entity part).map .ofProperty).or
      ((capitalCuts [] part).reverse.findSome? fun cut =>
        declared.step? entity cut.1.reverse cut.2) := by
  have hcut := (cutAtUnderscore_eq_none part).mpr h
  obtain ⟨c, rest, rfl⟩ := List.exists_cons_of_ne_nil hne
  rw [resolvePart]
  split
  · next h' => simp [hcut] at h'
  · cases declared.named? entity (c :: rest) with
    | some found => rfl
    | none =>
        rw [Option.map_none, Option.none_or]
        conv_rhs => rw [← List.attach_map_subtype_val (capitalCuts [] (c :: rest)).reverse,
          List.findSome?_map]
        refine congrArg (List.findSome? · _) (funext fun cut => ?_)
        simp only [Function.comp_apply, Declarations.step?]
        cases declared.reference? entity cut.1.1.reverse <;> rfl

theorem path_ne_nil_of_step? (declared : Declarations) (entity : String) (head tail : List Char)
    (predicate : Predicate) (h : declared.step? entity head tail = some predicate) :
    predicate.path ≠ [] := by
  obtain ⟨⟨found, target⟩, _, hr⟩ := Option.bind_eq_some_iff.mp h
  obtain ⟨inner, _, rfl⟩ := Option.map_eq_some_iff.mp hr
  simp [Predicate.under]

-- A part is resolved by its name as a whole, or by a step through a reference.
theorem resolvePart_cases (declared : Declarations) (entity : String) (part : List Char)
    (predicate : Predicate) (h : resolvePart declared entity part = some predicate) :
    (∃ found, declared.named? entity part = some found ∧ part ≠ [] ∧ '_' ∉ part ∧
        predicate = .ofProperty found) ∨
      (∃ head tail, declared.step? entity head tail = some predicate) ∧
        ('_' ∈ part ∨ declared.named? entity part = none) := by
  by_cases hne : part = []
  · simp [hne, resolvePart_nil] at h
  by_cases hu : '_' ∈ part
  · right
    cases hc : cutAtUnderscore part with
    | none => exact absurd hu ((cutAtUnderscore_eq_none part).mp hc)
    | some cut =>
        rw [resolvePart_of_underscore declared entity part cut.1 cut.2 hc] at h
        exact ⟨⟨cut.1, cut.2, h⟩, .inl hu⟩
  · rw [resolvePart_of_named declared entity part hne hu, Option.or_eq_some_iff] at h
    rcases h with h | ⟨hn, h⟩
    · obtain ⟨found, hf, rfl⟩ := Option.map_eq_some_iff.mp h
      exact .inl ⟨found, hf, hne, hu, rfl⟩
    · obtain ⟨cut, _, hc⟩ := List.exists_of_findSome?_eq_some h
      exact .inr ⟨⟨_, _, hc⟩, .inr (Option.map_eq_none_iff.mp hn)⟩

theorem path_ne_nil_of_resolvePart (declared : Declarations) (entity : String) (part : List Char)
    (predicate : Predicate) (h : resolvePart declared entity part = some predicate) :
    predicate.path ≠ [] := by
  rcases resolvePart_cases declared entity part predicate h with
    ⟨found, _, _, _, rfl⟩ | ⟨⟨head, tail, hs⟩, _⟩
  · simp [Predicate.ofProperty]
  · exact path_ne_nil_of_step? declared entity head tail predicate hs

theorem one_lt_length_of_step? (declared : Declarations) (entity : String) (head tail : List Char)
    (predicate : Predicate) (h : declared.step? entity head tail = some predicate) :
    1 < predicate.path.length := by
  obtain ⟨⟨found, target⟩, _, hr⟩ := Option.bind_eq_some_iff.mp h
  obtain ⟨inner, hi, rfl⟩ := Option.map_eq_some_iff.mp hr
  have := List.length_pos_iff.mpr (path_ne_nil_of_resolvePart declared target tail inner hi)
  simp only [Predicate.under, List.length_cons]
  omega

theorem Predicate.path_eq (predicate : Predicate) (hne : predicate.path ≠ [])
    (hlength : predicate.path.length ≤ 1) : predicate.path = [predicate.leaf] := by
  obtain ⟨step, rest, hp⟩ := List.exists_cons_of_ne_nil hne
  rw [hp, List.length_cons] at hlength
  obtain rfl : rest = [] := List.length_eq_zero_iff.mp (by omega)
  rw [leaf, hp]
  rfl

theorem resolvePart_short_iff (declared : Declarations) (entity : String) (part : List Char)
    (predicate : Predicate) :
    resolvePart declared entity part = some predicate ∧ predicate.path.length ≤ 1 ↔
      part ≠ [] ∧ '_' ∉ part ∧
        ∃ found, declared.named? entity part = some found ∧ predicate = .ofProperty found := by
  constructor
  · rintro ⟨h, hl⟩
    rcases resolvePart_cases declared entity part predicate h with
      ⟨found, hf, hne, hu, rfl⟩ | ⟨⟨head, tail, hs⟩, _⟩
    · exact ⟨hne, hu, found, hf, rfl⟩
    · have := one_lt_length_of_step? declared entity head tail predicate hs
      omega
  · rintro ⟨hne, hu, found, hf, rfl⟩
    rw [resolvePart_of_named declared entity part hne hu, hf]
    exact ⟨rfl, by simp [Predicate.ofProperty]⟩

theorem isAssignable_of_short (declared : Declarations) (entity : String) (part : List Char)
    (predicate : Predicate) (h : resolvePart declared entity part = some predicate)
    (hlength : predicate.path.length ≤ 1) : declared.isAssignable predicate.owner entity := by
  obtain ⟨_, _, found, hnamed, rfl⟩ := (resolvePart_short_iff _ _ _ _).mp ⟨h, hlength⟩
  have hfound := declared.property?_of_named? entity part found hnamed
  exact declared.isAssignable_of_property? entity found.property.name found hfound

-- A path of several steps begins with a reference of the entity.
theorem exists_reference (declared : Declarations) (entity : String) (part : List Char)
    (predicate : Predicate) (h : resolvePart declared entity part = some predicate)
    (hlength : 1 < predicate.path.length) :
    ∃ reference target, declared.property? entity predicate.first = some reference ∧
      reference.property.type = .entity target := by
  rcases resolvePart_cases declared entity part predicate h with
    ⟨found, _, _, _, rfl⟩ | ⟨⟨head, tail, hs⟩, _⟩
  · simp [Predicate.ofProperty] at hlength
  · obtain ⟨⟨found, target⟩, hr, hi⟩ := Option.bind_eq_some_iff.mp hs
    obtain ⟨inner, _, rfl⟩ := Option.map_eq_some_iff.mp hi
    obtain ⟨hnamed, htarget⟩ := declared.reference?_eq_some entity head found target hr
    exact ⟨found, target, declared.property?_of_named? entity head found hnamed, htarget⟩

namespace Criteria

-- The first part that nothing is found for stops the others.
theorem resolveParts_eq_error_iff (declared : Declarations) (root : String) (parts : List String)
    (violation : Violation) :
    resolveParts declared root parts = .error violation ↔ ∃ part,
      IsFirst (fun other => resolvePart declared root other.toList = none) parts part ∧
        violation = .unresolved part root := by
  induction parts with
  | nil => simp [resolveParts, not_isFirst_nil]
  | cons first rest ih =>
      simp only [resolveParts, isFirst_cons]
      cases hp : resolvePart declared root first.toList with
      | none => simp [eq_comm]
      | some predicate =>
          simp only [reduceCtorEq, false_and, not_false_eq_true, true_and, false_or, ← ih]
          cases resolveParts declared root rest <;> simp

theorem resolveParts_eq_ok_iff (declared : Declarations) (root : String) (parts : List String)
    (predicates : List Predicate) :
    resolveParts declared root parts = .ok predicates ↔
      List.Forall₂ (fun part predicate => resolvePart declared root part.toList = some predicate)
        parts predicates := by
  induction parts generalizing predicates with
  | nil => simp [resolveParts, eq_comm]
  | cons part rest ih =>
      simp only [resolveParts]
      cases hp : resolvePart declared root part.toList with
      | none => simp [List.forall₂_cons_left_iff, hp]
      | some predicate =>
          cases hr : resolveParts declared root rest with
          | error violation => simp [List.forall₂_cons_left_iff, hp, ← ih, hr]
          | ok later =>
              rw [eq_comm]
              simp [List.forall₂_cons_left_iff, hp, ← ih, hr]

theorem resolve_eq_ok_iff (schema : Schema) (root : String) (name : MethodName)
    (criteria : Criteria) :
    resolve schema root name = .ok criteria ↔ schema.contains root ∧
      ∃ predicates, resolveParts schema.toDeclarations root name.parts = .ok predicates ∧
        criteria = ⟨Verb.ofKeyword name.verb, name.subject, predicates, name.connectors⟩ := by
  unfold resolve
  split
  · next hc =>
    cases resolveParts schema.toDeclarations root name.parts <;> simp [hc, eq_comm]
  · next hc => simp [hc]

theorem resolve_eq_error_iff (schema : Schema) (root : String) (name : MethodName)
    (violation : Violation) :
    resolve schema root name = .error violation ↔
      ¬schema.contains root ∧ violation = .unknownRoot root ∨
        schema.contains root ∧
          resolveParts schema.toDeclarations root name.parts = .error violation := by
  unfold resolve
  split
  · next hc =>
    cases resolveParts schema.toDeclarations root name.parts <;> simp [hc]
  · next hc => simp [hc, eq_comm]

theorem parse_eq_ok_iff (schema : Schema) (root method : String) (criteria : Criteria) :
    parse schema root method = .ok criteria ↔
      ∃ name, MethodName.parse method = .ok name ∧ resolve schema root name = .ok criteria :=
  except_bind_eq_ok (MethodName.parse method) (resolve schema root) criteria

end Criteria

end Finder
