import Finder.Catalog
import Finder.Proofs.Lists

namespace Finder

namespace Catalog

theorem names_nodup (catalog : Catalog) : (catalog.entries.map CatalogEntry.name).Nodup :=
  List.pairwise_map.mpr (catalog.ascending.imp fun hlt => String.ne_of_lt hlt)

theorem get?_eq_some_iff (catalog : Catalog) (name : String) (entry : CatalogEntry) :
    catalog.get? name = some entry ↔ entry ∈ catalog.entries ∧ entry.name = name :=
  Keyed.find?_eq_some_iff CatalogEntry.name catalog.entries catalog.names_nodup name entry

theorem contains_iff (catalog : Catalog) (name : String) :
    catalog.contains name ↔ ∃ entry, catalog.get? name = some entry :=
  Option.isSome_iff_exists

theorem mem_names_iff (catalog : Catalog) (name : String) :
    name ∈ catalog.names ↔ catalog.contains name := by
  simp only [names, contains_iff, get?_eq_some_iff, List.mem_map]

theorem names_ascending (catalog : Catalog) :
    catalog.names.Pairwise fun first second => first < second :=
  List.pairwise_map.mpr catalog.ascending

-- Under a new name nothing is left out, wherever the entry is put.
theorem place_perm (entry : CatalogEntry) (entries : List CatalogEntry)
    (hnew : ∀ other ∈ entries, other.name ≠ entry.name) :
    (place entry entries).Perm (entry :: entries) := by
  induction entries with
  | nil => exact .refl _
  | cons other rest ih =>
      rw [List.forall_mem_cons] at hnew
      simp only [place]
      split
      · exact .refl _
      · rw [if_neg (Ne.symm hnew.1)]
        have hrest : (other :: place entry rest).Perm (other :: entry :: rest) :=
          (ih hnew.2).cons other
        exact hrest.trans (.swap entry other rest)

section

variable {catalog : Catalog} {entry : CatalogEntry}

theorem insert_perm (hnew : catalog.get? entry.name = none) :
    (catalog.insert entry).entries.Perm (entry :: catalog.entries) := by
  refine place_perm entry catalog.entries fun other ho he => ?_
  have hfound := (catalog.get?_eq_some_iff entry.name other).mpr ⟨ho, he⟩
  simp [hnew] at hfound

theorem size_insert (hnew : catalog.get? entry.name = none) :
    (catalog.insert entry).size = catalog.size + 1 := by
  have hlength := (insert_perm hnew).length_eq
  rwa [List.length_cons] at hlength

theorem get?_insert_eq_some_iff (hnew : catalog.get? entry.name = none) (name : String)
    (other : CatalogEntry) :
    (catalog.insert entry).get? name = some other ↔
      catalog.get? name = some other ∨ entry.name = name ∧ other = entry := by
  have hmem : other ∈ (catalog.insert entry).entries ↔ other = entry ∨ other ∈ catalog.entries := by
    rw [(insert_perm hnew).mem_iff, List.mem_cons]
  rw [get?_eq_some_iff, get?_eq_some_iff, hmem]
  constructor
  · rintro ⟨rfl | ho, hname⟩
    · exact .inr ⟨hname, rfl⟩
    · exact .inl ⟨ho, hname⟩
  · rintro (⟨ho, hname⟩ | ⟨hname, rfl⟩)
    · exact ⟨.inr ho, hname⟩
    · exact ⟨.inl rfl, hname⟩

end

-- What an attempt to store a declaration comes to, and leaves. Its reports are left open: alone or
-- as one out of several, an attempt differs in them only.
inductive Tries (catalog : Catalog) (declaration : Declaration) : Attempt → Prop
  | duplicate (events : List Event) (h : catalog.contains declaration.method) :
      Tries catalog declaration ⟨catalog, .error (.alreadyStored declaration.method), events⟩
  | rejected (events : List Event) (error : CompileError)
      (hnew : catalog.get? declaration.method = none)
      (h : Query.compile catalog.schema declaration.root declaration.method = .error error) :
      Tries catalog declaration ⟨catalog, .error (.rejected error), events⟩
  | stored (events : List Event) (query : Query)
      (hnew : catalog.get? declaration.method = none)
      (h : Query.compile catalog.schema declaration.root declaration.method = .ok query) :
      Tries catalog declaration
        ⟨catalog.insert ⟨declaration.method, query, declaration.shape⟩,
          .ok ⟨declaration.method, query, declaration.shape⟩, events⟩

theorem tries_register (catalog : Catalog) (declaration : Declaration) :
    Tries catalog declaration (catalog.register declaration) := by
  by_cases hc : catalog.contains declaration.method
  · rw [register, if_pos hc]
    exact .duplicate _ hc
  · have hnew : catalog.get? declaration.method = none := by
      simpa [contains] using hc
    rw [register, if_neg hc]
    cases h : Query.compile catalog.schema declaration.root declaration.method with
    | error error => exact .rejected _ error hnew h
    | ok query => exact .stored _ query hnew h

theorem tries_registerNext (catalog : Catalog) (declaration : Declaration) :
    Tries catalog declaration (catalog.registerNext declaration) := by
  have htries := tries_register catalog declaration
  unfold registerNext
  generalize catalog.register declaration = attempt at htries
  cases htries with
  | duplicate events h => exact .duplicate _ h
  | rejected events error hnew h => exact .rejected _ error hnew h
  | stored events query hnew h => exact .stored _ query hnew h

-- What a declaration offers under a name: its query, if it has the name and compiles.
def offer? (schema : Schema) (name : String) (declaration : Declaration) : Option CatalogEntry :=
  if declaration.method = name then
    match Query.compile schema declaration.root declaration.method with
    | .error _ => none
    | .ok query => some ⟨name, query, declaration.shape⟩
  else none

theorem offer?_eq_some_iff (schema : Schema) (name : String) (declaration : Declaration)
    (entry : CatalogEntry) :
    offer? schema name declaration = some entry ↔ declaration.method = name ∧
      ∃ query, Query.compile schema declaration.root name = .ok query ∧
        entry = ⟨name, query, declaration.shape⟩ := by
  unfold offer?
  split
  · next hname =>
    subst hname
    cases Query.compile schema declaration.root declaration.method <;> simp [eq_comm]
  · next hname => simp [hname]

section

variable {catalog : Catalog} {declaration : Declaration} {attempt : Attempt}

theorem Tries.schema_eq (h : Tries catalog declaration attempt) :
    attempt.catalog.schema = catalog.schema := by
  cases h <;> rfl

-- An entry that is there stays, and else what the declaration offers is found under its name.
theorem Tries.get?_eq (h : Tries catalog declaration attempt) (name : String) :
    attempt.catalog.get? name =
      (catalog.get? name).or (offer? catalog.schema name declaration) := by
  cases h with
  | duplicate events h =>
      cases hfound : catalog.get? name with
      | some entry => rw [Option.some_or]
      | none =>
          have hne : declaration.method ≠ name := by
            rintro rfl
            simp [contains, hfound] at h
          simp [offer?, hne]
  | rejected events error hnew h =>
      have hnone : offer? catalog.schema name declaration = none := by
        simp [offer?, h]
      rw [hnone, Option.or_none]
  | stored events query hnew h =>
      ext entry
      rw [get?_insert_eq_some_iff hnew, Option.or_eq_some_iff, offer?_eq_some_iff]
      by_cases hname : declaration.method = name
      · subst hname
        simp [hnew, h]
      · simp [hname]

theorem Tries.size_eq (h : Tries catalog declaration attempt) :
    attempt.catalog.size = catalog.size + if attempt.result.isOk then 1 else 0 := by
  cases h with
  | duplicate events h => rfl
  | rejected events error hnew h => rfl
  | stored events query hnew h => exact size_insert hnew

theorem Tries.catalog_eq_of_error (h : Tries catalog declaration attempt) (error : CatalogError)
    (herror : attempt.result = .error error) : attempt.catalog = catalog := by
  cases h with
  | duplicate events h => rfl
  | rejected events error hnew h => rfl
  | stored events query hnew h => cases herror

end

end Catalog

end Finder
