import Finder.Proofs.Query.Answers
import Finder.Proofs.Query.Language

namespace Finder

open Text

theorem isPlain_of_mem_smallFirst (word : List Char) (h : ∀ c ∈ word, isPlain c) :
    ∀ c ∈ smallFirst word, isPlain c := by
  cases word with
  | nil => simp [smallFirst]
  | cons first rest =>
      rw [List.forall_mem_cons] at h
      intro c hc
      rcases List.mem_append.mp hc with hc | hc
      · exact isPlain_of_mem_lowerChar first h.1 c hc
      · exact h.2 c hc

theorem isPlain_of_mem_decapitalize (word : List Char) (h : ∀ c ∈ word, isPlain c) :
    ∀ c ∈ decapitalize word, isPlain c := by
  unfold decapitalize
  split
  · split
    · exact h
    · exact isPlain_of_mem_smallFirst _ h
  · exact isPlain_of_mem_smallFirst word h

-- What a word names is spelt like the word, but for the size of its first letter.
theorem Schema.isPlain_of_mem_name (schema : Schema) (entity : String) (word : List Char)
    (found : OwnedProperty)
    (hfound : schema.property? entity (String.ofList (decapitalize word)) = some found ∨
      schema.property? entity (String.ofList (decapitalize word)) = none ∧
        schema.property? entity (String.ofList (smallFirst word)) = some found)
    (hword : ∀ c ∈ word, isPlain c) : ∀ c ∈ found.property.name.toList, isPlain c := by
  rcases hfound with hvisible | ⟨_, hvisible⟩
  · rw [(schema.property?_eq_some entity _ found hvisible).1, String.toList_ofList]
    exact isPlain_of_mem_decapitalize word hword
  · rw [(schema.property?_eq_some entity _ found hvisible).1, String.toList_ofList]
    exact isPlain_of_mem_smallFirst word hword

namespace MethodName

theorem isNameChar_of_parse (name : String) (method : MethodName) (h : parse name = .ok method) :
    ∀ c ∈ name.toList, isNameChar c := by
  intro c hc
  by_contra hbad
  obtain ⟨violation, hviolation⟩ := parse_of_malformed name ((malformed_iff name).mpr
    (.inl ⟨c, hc, by simpa using hbad⟩))
  simp [hviolation] at h

-- Of the characters of a name only the underscore is no letter or digit, and it splits a part.
theorem isPlain_of_mem_part (name : String) (method : MethodName) (h : parse name = .ok method)
    (part : String) (hp : part ∈ method.parts) (hunderscore : '_' ∉ part.toList) :
    ∀ c ∈ part.toList, isPlain c := by
  obtain ⟨rest, hreads⟩ := reads_of_parse name method h
  intro c hc
  have hname := isNameChar_of_parse name method h c (hreads.mem_of_mem_part part hp c hc)
  have hne : c ≠ '_' := fun he => hunderscore (he ▸ hc)
  exact isPlain_of_isAlphanumeric c (by simpa [isNameChar, hne] using hname)

end MethodName

namespace Query

variable {schema storage : Schema} {root method : String} {query : Query}

theorem NamesScalar.isPlain_of_mem {part : String} {found : OwnedProperty}
    (h : NamesScalar schema root part found) (hpart : ∀ c ∈ part.toList, isPlain c) :
    ∀ c ∈ found.property.name.toList, isPlain c :=
  schema.isPlain_of_mem_name root part.toList found h.visible hpart

theorem Speaks.isPlain_of_mem {found : List OwnedProperty} (h : Speaks schema root method found)
    (property : OwnedProperty) (hm : property ∈ found) :
    ∀ c ∈ property.property.name.toList, isPlain c := by
  obtain ⟨name, hname, _, hstands⟩ := h.stands
  have hnamed : ∃ part ∈ name.parts, NamesScalar schema root part property := by
    cases hstands with
    | one part found hparts names =>
        obtain rfl := List.mem_singleton.mp hm
        exact ⟨part, by simp [hparts], names⟩
    | two part next found later hparts _ names names_next _ =>
        rcases List.mem_cons.mp hm with rfl | hm
        · exact ⟨part, by simp [hparts], names⟩
        · obtain rfl := List.mem_singleton.mp hm
          exact ⟨next, by simp [hparts], names_next⟩
  obtain ⟨part, hp, hnames⟩ := hnamed
  have hpart := MethodName.isPlain_of_mem_part method name hname part hp hnames.plain
  exact hnames.isPlain_of_mem hpart

-- The properties that a query compares, found again by the names of its parameters.
theorem Compiled.exists_compared_by_names (h : Compiled schema storage root method query) :
    ∃ found : List OwnedProperty, query.criteria.predicates = found.map .ofProperty ∧
      query.parameters.names.map (schema.property? root) = found.map some := by
  obtain ⟨found, hpredicates, hvisible⟩ := exists_compared schema storage root method query h
  refine ⟨found, hpredicates, ?_⟩
  rw [h.names_eq, hpredicates, List.map_map, List.map_map]
  exact List.map_congr_left fun property hm => (hvisible property hm).1

theorem Compiled.predicates_eq_of_names {method' : String} {other : Query}
    (h : Compiled schema storage root method query)
    (h' : Compiled schema storage root method' other)
    (hnames : other.parameters.names = query.parameters.names) :
    other.criteria.predicates = query.criteria.predicates := by
  obtain ⟨found, hpredicates, hfound⟩ := h.exists_compared_by_names
  obtain ⟨later, hpredicates', hlater⟩ := h'.exists_compared_by_names
  have hsame : later.map some = found.map some := by rw [← hfound, ← hlater, hnames]
  have hinjective : Function.Injective (some : OwnedProperty → Option OwnedProperty) :=
    Option.some_injective _
  rw [hpredicates, hpredicates', List.map_injective_iff.mpr hinjective hsame]

-- Queries that compare the same properties, or count, have one statement.
theorem Compiled.statement_eq_of_names {method' : String} {other : Query}
    (h : Compiled schema storage root method query)
    (h' : Compiled schema storage root method' other)
    (hnames : other.parameters.names = query.parameters.names)
    (hcounts : other.criteria.verb = .count ↔ query.criteria.verb = .count) :
    other.statement = query.statement ∧ other.bindings = query.bindings := by
  by_cases hverb : query.criteria.verb = .count
  · obtain ⟨⟨table, htable, hstatement, _⟩, hbindings⟩ := h.counts hverb
    obtain ⟨⟨table', htable', hstatement', _⟩, hbindings'⟩ := h'.counts (hcounts.mpr hverb)
    obtain rfl := Option.some.inj (htable.symm.trans htable')
    exact ⟨hstatement'.trans hstatement.symm, hbindings'.trans hbindings.symm⟩
  · exact h.find_eq_of_predicates h' (h.predicates_eq_of_names h' hnames) hverb
      fun hverb' => hverb (hcounts.mp hverb')

-- How far a method name reaches into the statement of its query.
structure Confined (schema : Schema) (root : String) (query : Query) : Prop where
  -- Where rows are counted, no parameter is used.
  placeholders_eq : query.placeholders =
    if query.criteria.verb = .count then [] else query.parameters.names
  names_ne : ∀ name ∈ query.parameters.names, name ≠ ""
  names_plain : ∀ name ∈ query.parameters.names, ∀ c ∈ name.toList, c.isAlphanum ∨ 128 ≤ c.toNat
  names_visible : ∀ name ∈ query.parameters.names, ∃ found kind,
    schema.property? root name = some found ∧ found.property.name = name ∧
      found.property.type = .scalar kind
  -- Nothing but these names, and whether rows are counted, makes a difference.
  determined : ∀ method other, compile schema root method = .ok other →
    other.parameters.names = query.parameters.names →
    (other.criteria.verb = .count ↔ query.criteria.verb = .count) →
      other.text = query.text ∧ other.bindings = query.bindings

theorem Compiled.placeholders_eq (h : Compiled schema storage root method query) :
    query.placeholders = if query.criteria.verb = .count then [] else query.parameters.names := by
  by_cases hverb : query.criteria.verb = .count
  · rw [if_pos hverb, placeholders, (h.counts hverb).bindings_eq, List.map_nil]
  · rw [if_neg hverb, placeholders, (h.find_eq hverb).2, Parameters.names]
    have hpairs := congrArg (List.map Prod.snd) (bindingsFrom_map 0 query.parameters.entries)
    rw [List.map_map, List.map_snd_zip (by simp)] at hpairs
    exact hpairs

-- A method name chooses among the properties of the schema, and writes nothing itself.
theorem confined_of_compiled (schema : Schema) (root method : String) (query : Query)
    (hcompile : compile schema root method = .ok query) : Confined schema root query := by
  have hcompiled := (compile_eq_ok_iff _ _ _ _).mp hcompile
  obtain ⟨found, hspeaks, hpredicates⟩ :=
    speaks_of_compiled schema schema root method query hcompiled
  have hvisible := hspeaks.visible_of_mem
  have hnames : query.parameters.names = found.map fun property => property.property.name := by
    rw [hcompiled.names_eq, hpredicates, List.map_map]
    rfl
  constructor
  case placeholders_eq => exact hcompiled.placeholders_eq
  case names_ne =>
    rw [hnames, List.forall_mem_map]
    exact fun property hm => name_ne_empty schema root _ property (hvisible property hm).1
  case names_plain =>
    rw [hnames, List.forall_mem_map]
    intro property hm c hc
    have hplain := hspeaks.isPlain_of_mem property hm c hc
    simpa [isPlain] using hplain
  case names_visible =>
    rw [hnames, List.forall_mem_map]
    intro property hm
    obtain ⟨hproperty, kind, hkind⟩ := hvisible property hm
    exact ⟨property, kind, hproperty, rfl, hkind⟩
  case determined =>
    intro method' other hother hsame hcounts
    have hcompiled' := (compile_eq_ok_iff _ _ _ _).mp hother
    obtain ⟨hstatement, hbindings⟩ := hcompiled.statement_eq_of_names hcompiled' hsame hcounts
    exact ⟨by rw [text, text, hstatement], hbindings⟩

def streamOwners : Query :=
  { findOwners with
    method := "streamOwnersByname"
    criteria := { findOwners.criteria with verb := .stream, subject := some "Owners" } }

theorem confined_of_compiled_findOwners : Confined owners "Owner" findOwners ∧
    compile owners "Owner" "streamOwnersByname" = .ok streamOwners ∧
      streamOwners.text = findOwners.text ∧ streamOwners.bindings = findOwners.bindings := by
  have hconfined := confined_of_compiled owners "Owner" "findByName" findOwners compile_findOwners
  have hcompile : compile owners "Owner" "streamOwnersByname" = .ok streamOwners := by
    decide +kernel
  exact ⟨hconfined, hcompile,
    hconfined.determined "streamOwnersByname" streamOwners hcompile rfl (by decide)⟩

end Query

end Finder
