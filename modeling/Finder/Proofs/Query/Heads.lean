import Finder.Proofs.MethodName.Spelling
import Finder.Proofs.Query.Language

namespace Finder

open Text

namespace MethodName

-- A head before any text, be it made of parts or not.
def headed (verb : String) (subject : Option String) (tail : String) : String :=
  verb ++ subject.getD "" ++ "By" ++ tail

-- The heads of queries.
structure Heads (verb : String) (subject : Option String) : Prop where
  reading : verb ∈ Verb.reading
  qualifies : Qualifies subject

-- Names that are read with the same conditions, under verbs that make queries, or that are both
-- misread for the same reason.
inductive Alike (name other : String) : Prop
  | misread (violation : Violation) (h : parse name = .error violation)
      (h' : parse other = .error violation)
  | read (method method' : MethodName) (h : parse name = .ok method) (h' : parse other = .ok method')
      (hverb : method.verb ∈ Verb.reading) (hverb' : method'.verb ∈ Verb.reading)
      (hparts : method'.parts = method.parts) (hconnectors : method'.connectors = method.connectors)

theorem Alike.symm {name other : String} (h : Alike name other) : Alike other name := by
  cases h with
  | misread violation h h' => exact .misread violation h' h
  | read method method' h h' hverb hverb' hparts hconnectors =>
      exact .read method' method h' h hverb' hverb hparts.symm hconnectors.symm

theorem lower_of_reading (verb : String) (h : verb ∈ Verb.reading) :
    verb.toList ≠ [] ∧ ∀ c ∈ verb.toList, isLowerLetter c := by
  have hall : ∀ verb ∈ Verb.reading, verb.toList ≠ [] ∧ verb.toList.all isLowerLetter := by
    decide +kernel
  simpa using hall verb h

-- A head is read as it stands, and the tail alone decides what else is read, or why nothing is.
theorem parse_headed (verb : String) (subject : Option String) (tail : String)
    (h : Heads verb subject) :
    parse (headed verb subject tail) =
      match tail.toList.find? fun c => !isNameChar c with
      | some found => .error (.unexpectedCharacter found)
      | none => .ok ⟨verb, subject, (cutParts tail.toList).1.map String.ofList,
          (cutParts tail.toList).2⟩ := by
  obtain ⟨hne, hlower⟩ := lower_of_reading verb h.reading
  have hname : (headed verb subject tail).toList =
      verb.toList ++ ((subject.getD "").toList ++ separator ++ tail.toList) := by
    simp [headed, separator]
  have hhead : ∀ c ∈ verb.toList ++ ((subject.getD "").toList ++ separator), isNameChar c := by
    intro c hc
    rcases List.mem_append.mp hc with hc | hc
    · simp [isNameChar, isAlphanumeric_of_isLowerLetter c (hlower c hc)]
    · rcases List.mem_append.mp hc with hc | hc
      · exact h.qualifies.isNameChar_subject c hc
      · exact isNameChar_of_mem_separator c hc
  cases hf : tail.toList.find? fun c => !isNameChar c with
  | some found =>
      have hfind : ((headed verb subject tail).toList.find? fun c => !isNameChar c) = some found := by
        rw [hname, ← List.append_assoc, List.find?_append, hf, List.find?_eq_none.mpr, Option.none_or]
        intro c hc
        simp [hhead c hc]
      simp only [parse, hfind]
  | none =>
      have htail : ∀ c ∈ tail.toList, isNameChar c := by simpa using hf
      rw [parse_append _ _ _ hname hne hlower]
      · simp only [afterVerb, h.qualifies.cutSubject_append, String.ofList_toList]
      · intro c hm
        obtain ⟨d, hd, hu⟩ := h.qualifies.head?_subject tail.toList
        obtain rfl : d = c := Option.some.inj (hd.symm.trans hm)
        exact isLowerLetter_of_isUpperLetter d hu
      · intro c hm
        rcases List.mem_append.mp hm with hm | hm
        · exact hhead c (List.mem_append_right _ hm)
        · exact htail c hm

theorem alike_of_heads (verb other : String) (subject second : Option String) (tail : String)
    (h : Heads verb subject) (h' : Heads other second) :
    Alike (headed verb subject tail) (headed other second tail) := by
  have hname := parse_headed verb subject tail h
  have hname' := parse_headed other second tail h'
  cases hf : tail.toList.find? fun c => !isNameChar c with
  | some found =>
      rw [hf] at hname hname'
      exact .misread _ hname hname'
  | none =>
      rw [hf] at hname hname'
      exact .read _ _ hname hname' h.reading h'.reading rfl rfl

end MethodName

namespace Criteria

-- The same predicates under another head. No rule can tell the difference.
def under (criteria : Criteria) (method : MethodName) : Criteria :=
  { criteria with verb := Verb.ofKeyword method.verb, subject := method.subject }

theorem resolve_under (schema : Schema) (root : String) (method method' : MethodName)
    (hparts : method'.parts = method.parts) (hconnectors : method'.connectors = method.connectors)
    (criteria : Criteria) (h : resolve schema root method = .ok criteria) :
    resolve schema root method' = .ok (criteria.under method') := by
  obtain ⟨hmapped, predicates, hresolved, rfl⟩ := (resolve_eq_ok_iff _ _ _ _).mp h
  refine (resolve_eq_ok_iff _ _ _ _).mpr ⟨hmapped, predicates, hparts ▸ hresolved, ?_⟩
  rw [under, hconnectors]

theorem resolve_eq_error_of_parts (schema : Schema) (root : String) (method method' : MethodName)
    (hparts : method'.parts = method.parts) (violation : Violation)
    (h : resolve schema root method = .error violation) :
    resolve schema root method' = .error violation := by
  rw [resolve_eq_error_iff] at h ⊢
  rwa [hparts]

end Criteria

namespace Query

open MethodName

-- What two queries have in common that ask for the same rows.
structure SameQuestion (query other : Query) : Prop where
  predicates_eq : other.criteria.predicates = query.criteria.predicates
  connectors_eq : other.criteria.connectors = query.criteria.connectors
  parameters_eq : other.parameters = query.parameters
  arity_eq : other.arity = query.arity

-- Each stage stops for both names or for none. The last one stops for no name, whether it makes a
-- count or a find.
theorem stops_of_alike {schema : Schema} {root name other : String} {violation : Violation}
    (h : Alike name other) (hs : Stops schema schema root name violation) :
    Stops schema schema root other violation := by
  cases h with
  | misread found h h' =>
      rw [← derive_eq_error_iff] at hs ⊢
      rw [derive, h] at hs
      rw [derive, h']
      exact hs
  | read method method' h h' hverb hverb' hparts hconnectors =>
      have hresolve (criteria : Criteria) :=
        Criteria.resolve_under schema root method method' hparts hconnectors criteria
      cases hs with
      | name herror => cases h.symm.trans herror
      | verb found hfound hmodifying =>
          obtain rfl := Except.ok.inj (h.symm.trans hfound)
          exact absurd hverb hmodifying
      | criteria found hfound _ herror =>
          obtain rfl := Except.ok.inj (h.symm.trans hfound)
          exact .criteria method' h' hverb'
            (Criteria.resolve_eq_error_of_parts schema root method method' hparts _ herror)
      | rules found criteria hfound _ hcriteria hflaw =>
          obtain rfl := Except.ok.inj (h.symm.trans hfound)
          exact .rules method' _ h' hverb' (hresolve criteria hcriteria) hflaw
      | parameters found criteria hfound _ hcriteria hrules herror =>
          obtain rfl := Except.ok.inj (h.symm.trans hfound)
          exact .parameters method' _ h' hverb' (hresolve criteria hcriteria) hrules herror
      | plan found criteria parameters hfound _ hcriteria hrules hparameters herror =>
          obtain ⟨statement, bindings, hplan⟩ := exists_plan_of_rules schema root found criteria
            parameters criteria.verb hcriteria hrules hparameters
          cases hplan.symm.trans herror

theorem sameQuestion_of_alike {schema : Schema} {root name other : String} {query query' : Query}
    (h : Alike name other) (hq : Compiled schema schema root name query)
    (hq' : Compiled schema schema root other query') : SameQuestion query query' := by
  obtain ⟨found, hfound, _, hcriteria⟩ := hq.exists_name
  obtain ⟨found', hfound', _, hcriteria'⟩ := hq'.exists_name
  cases h with
  | misread violation herror _ => cases hfound.symm.trans herror
  | read method method' h h' hverb hverb' hparts hconnectors =>
      obtain rfl := Except.ok.inj (h.symm.trans hfound)
      obtain rfl := Except.ok.inj (h'.symm.trans hfound')
      have hunder := Criteria.resolve_under schema root _ _ hparts hconnectors _ hcriteria
      have hsame : query'.criteria = query.criteria.under method' :=
        Except.ok.inj (hcriteria'.symm.trans hunder)
      have hpredicates : query'.criteria.predicates = query.criteria.predicates := by
        rw [hsame, Criteria.under]
      exact {
        predicates_eq := hpredicates
        connectors_eq := by rw [hsame, Criteria.under]
        parameters_eq := hq.parameters_eq_of_predicates hq' hpredicates
        arity_eq := by rw [hq.arity_eq, hq'.arity_eq, hpredicates] }

theorem verb_of_headed {schema storage : Schema} {root verb tail : String}
    {subject : Option String} {query : Query} (h : Heads verb subject)
    (hq : Compiled schema storage root (headed verb subject tail) query) :
    query.criteria.verb = .count ↔ verb = "count" := by
  obtain ⟨method, hname, _, hcriteria⟩ := hq.exists_name
  obtain ⟨_, _, _, hc⟩ := (Criteria.resolve_eq_ok_iff _ _ _ _).mp hcriteria
  have hverb : method.verb = verb := by
    rw [parse_headed verb subject tail h] at hname
    split at hname
    · cases hname
    · rw [← Except.ok.inj hname]
  rw [hc, ← hverb]
  exact Verb.ofKeyword_eq_count_iff method.verb

-- Whatever stands behind the separator, it means the same under every head: the same report where it
-- does not compile, and else the same question. Only a count asks it of no row.
theorem compile_headed (schema : Schema) (root tail verb other : String)
    (subject second : Option String) (h : Heads verb subject) (h' : Heads other second) :
    (∃ violation,
      compile schema root (headed verb subject tail) =
          .error ⟨headed verb subject tail, violation⟩ ∧
        compile schema root (headed other second tail) =
          .error ⟨headed other second tail, violation⟩) ∨
      ∃ query query',
        compile schema root (headed verb subject tail) = .ok query ∧
        compile schema root (headed other second tail) = .ok query' ∧
        SameQuestion query query' ∧
        (verb ≠ "count" → other ≠ "count" →
          query'.text = query.text ∧ query'.bindings = query.bindings) ∧
        (verb = "count" → Counts schema root query) ∧
        (other = "count" → Counts schema root query') := by
  have halike := alike_of_heads verb other subject second tail h h'
  cases hc : compile schema root (headed verb subject tail) with
  | error error =>
      obtain ⟨hmethod, hstops⟩ := (compile_eq_error_iff _ _ _ _).mp hc
      have hother : compile schema root (headed other second tail) =
          .error ⟨headed other second tail, error.violation⟩ :=
        (compile_eq_error_iff _ _ _ _).mpr ⟨rfl, stops_of_alike halike hstops⟩
      exact .inl ⟨error.violation, by rw [← hmethod], hother⟩
  | ok query =>
      cases hc' : compile schema root (headed other second tail) with
      | error error =>
          obtain ⟨_, hstops⟩ := (compile_eq_error_iff _ _ _ _).mp hc'
          have herror := (compile_eq_error_iff schema root (headed verb subject tail)
            ⟨_, error.violation⟩).mpr ⟨rfl, stops_of_alike halike.symm hstops⟩
          cases hc.symm.trans herror
      | ok query' =>
          have hq := (compile_eq_ok_iff _ _ _ _).mp hc
          have hq' := (compile_eq_ok_iff _ _ _ _).mp hc'
          have hsame := sameQuestion_of_alike halike hq hq'
          refine .inr ⟨query, query', rfl, rfl, hsame, fun hverb hverb' => ?_,
            fun hcount => hq.counts ((verb_of_headed h hq).mpr hcount),
            fun hcount => hq'.counts ((verb_of_headed h' hq').mpr hcount)⟩
          obtain ⟨hstatement, hbindings⟩ := hq.find_eq_of_predicates hq' hsame.predicates_eq
            (fun hv => hverb ((verb_of_headed h hq).mp hv))
            (fun hv => hverb' ((verb_of_headed h' hq').mp hv))
          exact ⟨by rw [text, text, hstatement], hbindings⟩

theorem heads_findDistinct : Heads "find" (some "Distinct") where
  reading := by decide
  qualifies := {
    upper := by
      rintro _ ⟨⟩
      exact ⟨'D', rfl, by decide +kernel⟩
    plain := by
      rintro _ ⟨⟩
      rw [← cutAtBy_eq_none]
      rfl
    chars := by
      rintro _ ⟨⟩
      exact allowed_of_all _ (by decide +kernel) }

theorem heads_count : Heads "count" none where
  reading := by decide
  qualifies := ⟨by simp, by simp, by simp⟩

theorem compile_headed_findDistinct_count :
    Heads "find" (some "Distinct") ∧ Heads "count" none ∧
      ∃ query query', compile owners "Owner" "findDistinctByName" = .ok query ∧
        compile owners "Owner" "countByName" = .ok query' ∧ SameQuestion query query' ∧
        Counts owners "Owner" query' := by
  refine ⟨heads_findDistinct, heads_count, ?_⟩
  have hfind : headed "find" (some "Distinct") "Name" = "findDistinctByName" := by decide +kernel
  have hcount : headed "count" none "Name" = "countByName" := by decide +kernel
  have hcompiles : (compile owners "Owner" "countByName").isOk := by decide +kernel
  rw [← hfind, ← hcount]
  rcases compile_headed owners "Owner" "Name" "find" "count" (some "Distinct") none
    heads_findDistinct heads_count with
      ⟨violation, _, herror⟩ | ⟨query, query', hq, hq', hsame, _, _, hcounts⟩
  · rw [← hcount, herror] at hcompiles
    cases hcompiles
  · exact ⟨query, query', hq, hq', hsame, hcounts rfl⟩

end Query

end Finder
