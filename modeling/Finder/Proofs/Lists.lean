import Mathlib.Data.List.Forall2
import Mathlib.Data.List.Nodup

namespace Finder

theorem except_bind_eq_ok {ε α β : Type} (computed : Except ε α) (next : α → Except ε β)
    (result : β) :
    computed >>= next = .ok result ↔ ∃ value, computed = .ok value ∧ next value = .ok result := by
  cases computed <;> simp [bind, Except.bind]

theorem except_bind_eq_error {ε α β : Type} (computed : Except ε α) (next : α → Except ε β)
    (error : ε) :
    computed >>= next = .error error ↔ computed = .error error ∨
      ∃ value, computed = .ok value ∧ next value = .error error := by
  cases computed <;> simp [bind, Except.bind]

theorem except_bind_return {ε α β : Type} (computed : Except ε α) (f : α → β) :
    (computed >>= fun value => pure (f value)) = computed.map f := by
  cases computed <;> rfl

theorem exists_left_of_forall₂ {α β : Type} {R : α → β → Prop} {lefts : List α} {rights : List β}
    (h : List.Forall₂ R lefts rights) (b : β) (hb : b ∈ rights) : ∃ a ∈ lefts, R a b := by
  induction h with
  | nil => cases hb
  | cons hfirst _ ih =>
      rcases List.mem_cons.mp hb with rfl | hb
      · exact ⟨_, List.mem_cons_self, hfirst⟩
      · obtain ⟨a, ha, hr⟩ := ih hb
        exact ⟨a, List.mem_cons_of_mem _ ha, hr⟩

theorem map_eq_of_forall₂ {α β γ : Type} {R : α → β → Prop} {lefts : List α} {rights : List β}
    (h : List.Forall₂ R lefts rights) (f : α → γ) (g : β → γ)
    (hfg : ∀ a ∈ lefts, ∀ b, R a b → g b = f a) : rights.map g = lefts.map f := by
  induction h with
  | nil => rfl
  | cons hfirst _ ih =>
      rw [List.forall_mem_cons] at hfg
      rw [List.map_cons, List.map_cons, hfg.1 _ hfirst, ih hfg.2]

-- What is kept of a list stands beside what is made of it, where the two go by the same elements.
theorem forall₂_filter_filterMap {α β : Type} {R : α → β → Prop} (p : α → Bool) (f : α → Option β)
    (list : List α) (h : ∀ a ∈ list, if p a then ∃ b, f a = some b ∧ R a b else f a = none) :
    List.Forall₂ R (list.filter p) (list.filterMap f) := by
  induction list with
  | nil => exact .nil
  | cons a rest ih =>
      rw [List.forall_mem_cons] at h
      obtain ⟨hfirst, hrest⟩ := h
      split at hfirst
      · next hp =>
        obtain ⟨b, hb, hr⟩ := hfirst
        rw [List.filter_cons_of_pos hp, List.filterMap_cons_some hb]
        exact .cons hr (ih hrest)
      · next hp =>
        rw [List.filter_cons_of_neg hp, List.filterMap_cons_none hfirst]
        exact ih hrest

theorem filter_flatMap_of_const {α β : Type} (list : List α) (f : α → List β) (p : α → Bool)
    (q : β → Bool) (h : ∀ a, ∀ b ∈ f a, q b = p a) :
    (list.flatMap f).filter q = (list.filter p).flatMap f := by
  induction list with
  | nil => rfl
  | cons a rest ih =>
      rw [List.flatMap_cons, List.filter_append, ih]
      cases hp : p a with
      | true =>
          rw [List.filter_cons_of_pos hp, List.flatMap_cons]
          congr 1
          exact List.filter_eq_self.mpr fun b hb => by rw [h a b hb, hp]
      | false =>
          rw [List.filter_cons_of_neg (by simp [hp])]
          rw [List.filter_eq_nil_iff.mpr fun b hb => by simp [h a b hb, hp], List.nil_append]

theorem findSome?_congr {α β : Type} {f g : α → Option β} {list : List α}
    (h : ∀ a ∈ list, f a = g a) : list.findSome? f = list.findSome? g := by
  induction list with
  | nil => rfl
  | cons a rest ih =>
      rw [List.forall_mem_cons] at h
      rw [List.findSome?_cons, List.findSome?_cons, h.1, ih h.2]

-- What is said of each element and of those before it, for the first element and for the others.
theorem forall_split_cons {α : Type*} (p : List α → α → Prop) (a : α) (rest : List α) :
    (∀ before b after, a :: rest = before ++ b :: after → p before b) ↔
      p [] a ∧ ∀ before b after, rest = before ++ b :: after → p (a :: before) b := by
  constructor
  · intro h
    refine ⟨h [] a rest rfl, fun before b after he => ?_⟩
    exact h (a :: before) b after (by rw [he, List.cons_append])
  · rintro ⟨hfirst, hrest⟩ before b after he
    cases before with
    | nil =>
        obtain ⟨rfl, rfl⟩ := List.cons.inj he
        exact hfirst
    | cons c before =>
        obtain ⟨rfl, hlater⟩ := List.cons.inj he
        exact hrest before b after hlater

-- The first element of a list that has a property.
def IsFirst {α : Type} (p : α → Prop) (list : List α) (a : α) : Prop :=
  ∃ before after, list = before ++ a :: after ∧ p a ∧ ∀ b ∈ before, ¬p b

theorem isFirst_cons {α : Type} (p : α → Prop) (a : α) (rest : List α) (b : α) :
    IsFirst p (a :: rest) b ↔ p a ∧ b = a ∨ ¬p a ∧ IsFirst p rest b := by
  constructor
  · rintro ⟨before, after, he, hb, hn⟩
    cases before with
    | nil =>
        obtain ⟨rfl, rfl⟩ := List.cons.inj he
        exact .inl ⟨hb, rfl⟩
    | cons first before =>
        obtain ⟨rfl, rfl⟩ := List.cons.inj he
        rw [List.forall_mem_cons] at hn
        exact .inr ⟨hn.1, before, after, rfl, hb, hn.2⟩
  · rintro (⟨ha, rfl⟩ | ⟨ha, before, after, rfl, hb, hn⟩)
    · exact ⟨[], rest, rfl, ha, by simp⟩
    · exact ⟨a :: before, after, rfl, hb, List.forall_mem_cons.mpr ⟨ha, hn⟩⟩

theorem not_isFirst_nil {α : Type} (p : α → Prop) (a : α) : ¬IsFirst p [] a := by
  rintro ⟨before, after, he, _⟩
  simp at he

theorem IsFirst.unique {α : Type} {p : α → Prop} {list : List α} {a b : α} (ha : IsFirst p list a)
    (hb : IsFirst p list b) : a = b := by
  induction list with
  | nil => exact absurd ha (not_isFirst_nil p a)
  | cons first rest ih =>
      rcases (isFirst_cons p first rest a).mp ha with ⟨hp, rfl⟩ | ⟨hp, ha⟩
      · rcases (isFirst_cons p a rest b).mp hb with ⟨_, rfl⟩ | ⟨hn, _⟩
        · rfl
        · exact absurd hp hn
      · rcases (isFirst_cons p first rest b).mp hb with ⟨hq, _⟩ | ⟨_, hb⟩
        · exact absurd hq hp
        · exact ih ha hb

theorem IsFirst.mem {α : Type} {p : α → Prop} {list : List α} {a : α} (h : IsFirst p list a) :
    a ∈ list ∧ p a := by
  obtain ⟨before, after, rfl, ha, _⟩ := h
  exact ⟨by simp, ha⟩

-- Only what a property says of the elements of the list matters.
theorem IsFirst.congr {α : Type} {p q : α → Prop} {list : List α} {a : α} (h : IsFirst p list a)
    (hiff : ∀ b ∈ list, p b ↔ q b) : IsFirst q list a := by
  obtain ⟨before, after, rfl, ha, hbefore⟩ := h
  refine ⟨before, after, rfl, (hiff a (by simp)).mp ha, fun b hb => ?_⟩
  exact (not_congr (hiff b (by simp [hb]))).mp (hbefore b hb)

theorem exists_isFirst {α : Type} {p : α → Prop} {list : List α} (a : α) (hm : a ∈ list)
    (ha : p a) : ∃ b, IsFirst p list b := by
  induction list with
  | nil => cases hm
  | cons first rest ih =>
      simp only [isFirst_cons]
      by_cases hp : p first
      · exact ⟨first, .inl ⟨hp, rfl⟩⟩
      · rcases List.mem_cons.mp hm with rfl | hm
        · exact absurd ha hp
        · obtain ⟨b, hb⟩ := ih hm
          exact ⟨b, .inr ⟨hp, hb⟩⟩

theorem find?_eq_some_iff_isFirst {α : Type} (p : α → Bool) (list : List α) (a : α) :
    list.find? p = some a ↔ IsFirst (fun b => p b) list a := by
  rw [List.find?_eq_some_iff_append]
  constructor
  · rintro ⟨ha, before, after, rfl, hn⟩
    exact ⟨before, after, rfl, ha, by simpa using hn⟩
  · rintro ⟨before, after, rfl, ha, hn⟩
    exact ⟨ha, before, after, rfl, by simpa using hn⟩

theorem findSome?_eq_some_iff_isFirst {α β : Type} (f : α → Option β) (list : List α) (b : β) :
    list.findSome? f = some b ↔ ∃ a, IsFirst (fun other => ¬f other = none) list a ∧ f a = some b := by
  rw [List.findSome?_eq_some_iff]
  constructor
  · rintro ⟨before, a, after, rfl, ha, hbefore⟩
    exact ⟨a, ⟨before, after, rfl, by simp [ha], fun other ho => not_not.mpr (hbefore other ho)⟩, ha⟩
  · rintro ⟨a, ⟨before, after, rfl, _, hbefore⟩, ha⟩
    exact ⟨before, a, after, rfl, ha, fun other ho => not_not.mp (hbefore other ho)⟩

namespace Keyed

variable {α β : Type} [DecidableEq β]

theorem find?_of_mem (key : α → β) (list : List α) (h : (list.map key).Nodup) (a : α)
    (ha : a ∈ list) : (list.find? fun other => key other == key a) = some a := by
  induction list with
  | nil => cases ha
  | cons first rest ih =>
      rw [List.map_cons, List.nodup_cons] at h
      rcases List.mem_cons.mp ha with rfl | hm
      · simp
      · have hne : key first ≠ key a := fun he => h.1 (he ▸ List.mem_map_of_mem hm)
        rw [List.find?_cons_of_neg (by simpa using hne)]
        exact ih h.2 hm

theorem find?_eq_some_iff (key : α → β) (list : List α) (h : (list.map key).Nodup) (name : β)
    (a : α) : (list.find? fun other => key other == name) = some a ↔ a ∈ list ∧ key a = name := by
  constructor
  · intro hf
    exact ⟨List.mem_of_find?_eq_some hf, by simpa using List.find?_some hf⟩
  · rintro ⟨ha, rfl⟩
    exact find?_of_mem key list h a ha

theorem lookup_of_mem (pairs : List (β × α)) (h : (pairs.map Prod.fst).Nodup) (name : β) (value : α)
    (hm : (name, value) ∈ pairs) : pairs.lookup name = some value := by
  induction pairs with
  | nil => cases hm
  | cons first rest ih =>
      rw [List.map_cons, List.nodup_cons] at h
      rcases List.mem_cons.mp hm with rfl | hm
      · rw [List.lookup_cons_self]
      · have hne : (name == first.1) = false := by
          rw [beq_eq_false_iff_ne]
          exact fun he => h.1 (he ▸ List.mem_map_of_mem hm)
        rw [List.lookup_cons, hne]
        exact ih h.2 hm

-- What is found under each of the names, in their order, are the values they were paired with.
theorem map_lookup_zip (names : List β) (values : List α) (h : names.Nodup)
    (hlength : names.length = values.length) :
    names.map (fun name => (names.zip values).lookup name) = values.map some := by
  induction names generalizing values with
  | nil => simp [List.eq_nil_of_length_eq_zero hlength.symm]
  | cons name rest ih =>
      obtain ⟨value, later, rfl⟩ := List.exists_cons_of_length_eq_add_one hlength.symm
      rw [List.nodup_cons] at h
      have hrest := ih later h.2 (by simpa using hlength)
      have hskip : rest.map (fun other => ((name :: rest).zip (value :: later)).lookup other) =
          rest.map fun other => (rest.zip later).lookup other := by
        refine List.map_congr_left fun other ho => ?_
        have hne : (other == name) = false := by
          rw [beq_eq_false_iff_ne]
          exact fun he => h.1 (he ▸ ho)
        rw [List.zip_cons_cons, List.lookup_cons, hne]
      rw [List.map_cons, List.map_cons, hskip, hrest, List.zip_cons_cons, List.lookup_cons_self]

end Keyed

end Finder
