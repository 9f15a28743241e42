import Finder.Proofs.Query.Language

namespace Finder.Query

open Text

-- The rules of compilation.
inductive Rule where
  | letters
  | start
  | verb
  | root
  | part
  | connector
  | boundary
  | column
  | arity
  | emptiness
  | repetition
  deriving DecidableEq, Repr

-- The order in which the rules are looked at.
def Rule.all : List Rule :=
  [letters, start, verb, root, part, connector, boundary, column, arity, emptiness, repetition]

-- The rules that come before those on what the parts stand for.
def Rule.early : List Rule :=
  [letters, start, verb, root, part]

def Resolves (schema : Schema) (root : String) (name : MethodName) (predicates : List Predicate) :
    Prop :=
  List.Forall₂ (fun part predicate =>
    resolvePart schema.toDeclarations root part.toList = some predicate) name.parts predicates

-- What a rule reports of a method name. A rule on predicates can only be broken where every part
-- stands for one.
inductive Breaks (schema : Schema) (root method : String) : Rule → Violation → Prop
  | letters (found : Char)
      (h : IsFirst (fun c => isAlphanumeric c = false ∧ c ≠ '_') method.toList found) :
      Breaks schema root method .letters (.unexpectedCharacter found)
  | start (h : ¬∃ c ∈ method.toList.head?, isLowerLetter c) :
      Breaks schema root method .start .missingVerb
  | verb (name : MethodName) (hname : MethodName.parse method = .ok name)
      (h : name.verb ∉ Verb.reading) :
      Breaks schema root method .verb (.modifyingVerb name.verb)
  | root (h : ¬schema.contains root) : Breaks schema root method .root (.unknownRoot root)
  | part (name : MethodName) (part : String) (hname : MethodName.parse method = .ok name)
      (h : IsFirst (fun other => resolvePart schema.toDeclarations root other.toList = none)
        name.parts part) :
      Breaks schema root method .part (.unresolved part root)
  | connector (name : MethodName) (hname : MethodName.parse method = .ok name)
      (h : .or ∈ name.connectors) :
      Breaks schema root method .connector (.unsupportedConnector .or)
  | boundary (name : MethodName) (predicates : List Predicate) (predicate : Predicate)
      (reference : OwnedProperty) (target : String) (hname : MethodName.parse method = .ok name)
      (hresolves : Resolves schema root name predicates)
      (h : IsFirst (fun other => 1 < other.path.length) predicates predicate)
      (hreference : schema.property? root predicate.first = some reference)
      (htarget : reference.property.type = .entity target) :
      Breaks schema root method .boundary (.outsideAggregate predicate.dotted target root)
  | column (name : MethodName) (predicates : List Predicate) (predicate : Predicate)
      (hname : MethodName.parse method = .ok name)
      (hresolves : Resolves schema root name predicates)
      (h : IsFirst (fun other => ∃ target, other.type = .entity target) predicates predicate) :
      Breaks schema root method .column (.entityValued predicate.dotted)
  | arity (name : MethodName) (predicates : List Predicate)
      (hname : MethodName.parse method = .ok name)
      (hresolves : Resolves schema root name predicates) (h : 2 < predicates.length) :
      Breaks schema root method .arity (.tooManyPredicates predicates.length)
  | emptiness (name : MethodName) (hname : MethodName.parse method = .ok name)
      (hresolves : Resolves schema root name []) :
      Breaks schema root method .emptiness .noCondition
  | repetition (name : MethodName) (first second : Predicate) (property : String)
      (hname : MethodName.parse method = .ok name)
      (hresolves : Resolves schema root name [first, second]) (hfirst : first.path = [property])
      (hsecond : second.path = [property]) :
      Breaks schema root method .repetition (.repeatedProperty property)

-- A rule that a method keeps has nothing to report.
def Keeps (schema : Schema) (root method : String) (rule : Rule) : Prop :=
  ¬∃ violation, Breaks schema root method rule violation

-- The first rule that is broken, and what it reports.
def FirstBroken (schema : Schema) (root method : String) (violation : Violation) : Prop :=
  ∃ rule, IsFirst (fun other => ∃ found, Breaks schema root method other found) Rule.all rule ∧
    Breaks schema root method rule violation

section

variable {schema : Schema} {root method : String} {name : MethodName}

theorem firstBroken_of_breaks {rule : Rule} {violation : Violation} (before after : List Rule)
    (hall : Rule.all = before ++ rule :: after) (h : Breaks schema root method rule violation)
    (hkeeps : ∀ other ∈ before, Keeps schema root method other) :
    FirstBroken schema root method violation :=
  ⟨rule, ⟨before, after, hall, ⟨violation, h⟩, hkeeps⟩, h⟩

theorem Resolves.unique {predicates others : List Predicate}
    (h : Resolves schema root name predicates) (h' : Resolves schema root name others) :
    predicates = others := by
  have hp := (Criteria.resolveParts_eq_ok_iff _ _ _ _).mpr h
  have ho := (Criteria.resolveParts_eq_ok_iff _ _ _ _).mpr h'
  exact Except.ok.inj (hp.symm.trans ho)

-- Each rule has one report for a method.
theorem Breaks.unique {rule : Rule} {violation other : Violation}
    (h : Breaks schema root method rule violation) (h' : Breaks schema root method rule other) :
    violation = other := by
  cases h with
  | letters found h =>
      cases h' with
      | letters _ h' => rw [h.unique h']
  | start h => cases h'; rfl
  | verb name hname h =>
      cases h' with
      | verb _ hname' _ =>
          obtain rfl := Except.ok.inj (hname.symm.trans hname')
          rfl
  | root h => cases h'; rfl
  | part name part hname h =>
      cases h' with
      | part _ _ hname' h' =>
          obtain rfl := Except.ok.inj (hname.symm.trans hname')
          rw [h.unique h']
  | connector name hname h => cases h'; rfl
  | boundary name predicates predicate reference target hname hresolves h hreference htarget =>
      cases h' with
      | boundary _ _ _ _ _ hname' hresolves' h' hreference' htarget' =>
          obtain rfl := Except.ok.inj (hname.symm.trans hname')
          obtain rfl := hresolves.unique hresolves'
          obtain rfl := h.unique h'
          obtain rfl := Option.some.inj (hreference.symm.trans hreference')
          obtain rfl := PropertyType.entity.inj (htarget.symm.trans htarget')
          rfl
  | column name predicates predicate hname hresolves h =>
      cases h' with
      | column _ _ _ hname' hresolves' h' =>
          obtain rfl := Except.ok.inj (hname.symm.trans hname')
          obtain rfl := hresolves.unique hresolves'
          rw [h.unique h']
  | arity name predicates hname hresolves h =>
      cases h' with
      | arity _ _ hname' hresolves' _ =>
          obtain rfl := Except.ok.inj (hname.symm.trans hname')
          rw [hresolves.unique hresolves']
  | emptiness name hname hresolves => cases h'; rfl
  | repetition name first second property hname hresolves hfirst hsecond =>
      cases h' with
      | repetition _ _ _ _ hname' hresolves' hfirst' _ =>
          obtain rfl := Except.ok.inj (hname.symm.trans hname')
          obtain ⟨rfl, _⟩ := List.cons.inj (hresolves.unique hresolves')
          rw [(List.cons.inj (hfirst.symm.trans hfirst')).1]

theorem FirstBroken.unique {violation other : Violation}
    (h : FirstBroken schema root method violation) (h' : FirstBroken schema root method other) :
    violation = other := by
  obtain ⟨rule, hfirst, hbreaks⟩ := h
  obtain ⟨rule', hfirst', hbreaks'⟩ := h'
  obtain rfl := hfirst.unique hfirst'
  exact hbreaks.unique hbreaks'

theorem resolves_of_resolve {criteria : Criteria}
    (h : Criteria.resolve schema root name = .ok criteria) :
    schema.contains root ∧ Resolves schema root name criteria.predicates ∧
      criteria.connectors = name.connectors := by
  obtain ⟨hmapped, predicates, hparts, rfl⟩ := (Criteria.resolve_eq_ok_iff _ _ _ _).mp h
  exact ⟨hmapped, (Criteria.resolveParts_eq_ok_iff _ _ _ _).mp hparts, rfl⟩

theorem Resolves.exists_part {predicates : List Predicate}
    (h : Resolves schema root name predicates) (predicate : Predicate)
    (hm : predicate ∈ predicates) :
    ∃ part : String, resolvePart schema.toDeclarations root part.toList = some predicate := by
  obtain ⟨part, _, hp⟩ := exists_left_of_forall₂ h predicate hm
  exact ⟨part, hp⟩

-- The root owns every property that a part names as a whole.
theorem Resolves.owned {predicates : List Predicate} (h : Resolves schema root name predicates)
    (predicate : Predicate) (hm : predicate ∈ predicates) (hlength : predicate.path.length ≤ 1) :
    schema.isAssignable predicate.owner root := by
  obtain ⟨part, hp⟩ := h.exists_part predicate hm
  exact isAssignable_of_short _ _ _ _ hp hlength

theorem Resolves.path_eq {predicates : List Predicate} (h : Resolves schema root name predicates)
    (predicate : Predicate) (hm : predicate ∈ predicates) (hlength : predicate.path.length ≤ 1) :
    predicate.path = [predicate.leaf] := by
  obtain ⟨part, hp⟩ := h.exists_part predicate hm
  exact predicate.path_eq (path_ne_nil_of_resolvePart _ _ _ _ hp) hlength

end

-- What a stage that was passed says of the rules that it looks at.
section

variable {schema : Schema} {root method : String} {name : MethodName} {predicates : List Predicate}

theorem keeps_letters (hname : MethodName.parse method = .ok name) :
    Keeps schema root method .letters := by
  rintro ⟨_, hbreaks⟩
  cases hbreaks with
  | letters found h =>
      obtain ⟨violation, hv⟩ := (MethodName.parse_fails_iff method).mpr (.inl ⟨found, h.mem⟩)
      cases hname.symm.trans hv

theorem keeps_start (hname : MethodName.parse method = .ok name) :
    Keeps schema root method .start := by
  rintro ⟨_, hbreaks⟩
  cases hbreaks with
  | start h =>
      obtain ⟨violation, hv⟩ := (MethodName.parse_fails_iff method).mpr (.inr h)
      cases hname.symm.trans hv

theorem keeps_verb (hname : MethodName.parse method = .ok name)
    (hverb : name.verb ∈ Verb.reading) : Keeps schema root method .verb := by
  rintro ⟨_, hbreaks⟩
  cases hbreaks with
  | verb other hother h =>
      obtain rfl := Except.ok.inj (hname.symm.trans hother)
      exact h hverb

theorem keeps_root (h : schema.contains root) : Keeps schema root method .root := by
  rintro ⟨_, hbreaks⟩
  cases hbreaks with
  | root hn =>
      exact hn h

theorem keeps_part (hname : MethodName.parse method = .ok name)
    (h : Resolves schema root name predicates) : Keeps schema root method .part := by
  rintro ⟨_, hbreaks⟩
  cases hbreaks with
  | part other part hother hpart =>
      obtain rfl := Except.ok.inj (hname.symm.trans hother)
      have herror := (Criteria.resolveParts_eq_error_iff _ _ _ _).mpr ⟨part, hpart, rfl⟩
      have hok := (Criteria.resolveParts_eq_ok_iff _ _ _ _).mpr h
      cases hok.symm.trans herror

theorem keeps_connector (hname : MethodName.parse method = .ok name)
    (h : ∀ connector ∈ name.connectors, connector = .and) :
    Keeps schema root method .connector := by
  rintro ⟨_, hbreaks⟩
  cases hbreaks with
  | connector other hother hor =>
      obtain rfl := Except.ok.inj (hname.symm.trans hother)
      cases h .or hor

theorem keeps_boundary (hname : MethodName.parse method = .ok name)
    (hresolves : Resolves schema root name predicates)
    (h : ∀ predicate ∈ predicates, predicate.path.length ≤ 1) :
    Keeps schema root method .boundary := by
  rintro ⟨_, hbreaks⟩
  cases hbreaks with
  | boundary other _ predicate _ _ hother hothers hfirst _ _ =>
      obtain rfl := Except.ok.inj (hname.symm.trans hother)
      obtain rfl := hresolves.unique hothers
      have := h predicate hfirst.mem.1
      have := hfirst.mem.2
      omega

theorem keeps_column (hname : MethodName.parse method = .ok name)
    (hresolves : Resolves schema root name predicates)
    (h : ∀ predicate ∈ predicates, ∃ kind, predicate.type = .scalar kind) :
    Keeps schema root method .column := by
  rintro ⟨_, hbreaks⟩
  cases hbreaks with
  | column other _ predicate hother hothers hfirst =>
      obtain rfl := Except.ok.inj (hname.symm.trans hother)
      obtain rfl := hresolves.unique hothers
      obtain ⟨target, ht⟩ := hfirst.mem.2
      obtain ⟨kind, hk⟩ := h predicate hfirst.mem.1
      cases hk.symm.trans ht

theorem keeps_arity (hname : MethodName.parse method = .ok name)
    (hresolves : Resolves schema root name predicates) (h : predicates.length ≤ 2) :
    Keeps schema root method .arity := by
  rintro ⟨_, hbreaks⟩
  cases hbreaks with
  | arity other _ hother hothers hlength =>
      obtain rfl := Except.ok.inj (hname.symm.trans hother)
      obtain rfl := hresolves.unique hothers
      omega

theorem keeps_emptiness (hname : MethodName.parse method = .ok name)
    (hresolves : Resolves schema root name predicates) (h : predicates ≠ []) :
    Keeps schema root method .emptiness := by
  rintro ⟨_, hbreaks⟩
  cases hbreaks with
  | emptiness other hother hothers =>
      obtain rfl := Except.ok.inj (hname.symm.trans hother)
      exact h (hresolves.unique hothers)

theorem keeps_repetition (hname : MethodName.parse method = .ok name)
    (hresolves : Resolves schema root name predicates)
    (h : (predicates.map Predicate.leaf).Nodup) : Keeps schema root method .repetition := by
  rintro ⟨_, hbreaks⟩
  cases hbreaks with
  | repetition other first second property hother hothers hfirst hsecond =>
      obtain rfl := Except.ok.inj (hname.symm.trans hother)
      obtain rfl := hresolves.unique hothers
      simp [Predicate.leaf, hfirst, hsecond] at h

-- The rules that are kept where a stage was passed, in their order.
theorem keeps_before_root (hname : MethodName.parse method = .ok name)
    (hverb : name.verb ∈ Verb.reading) :
    ∀ rule ∈ [Rule.letters, .start, .verb], Keeps schema root method rule := by
  simp [keeps_letters hname, keeps_start hname, keeps_verb hname hverb]

theorem keeps_before_connector (hname : MethodName.parse method = .ok name)
    (hverb : name.verb ∈ Verb.reading) (hmapped : schema.contains root)
    (hresolves : Resolves schema root name predicates) :
    ∀ rule ∈ Rule.early, Keeps schema root method rule := by
  simp [Rule.early, keeps_letters hname, keeps_start hname, keeps_verb hname hverb, keeps_root hmapped,
    keeps_part hname hresolves]

theorem keeps_before_repetition {criteria : Criteria} (hname : MethodName.parse method = .ok name)
    (hverb : name.verb ∈ Verb.reading)
    (hcriteria : Criteria.resolve schema root name = .ok criteria)
    (hrules : criteria.flaw? schema root = none) :
    ∀ rule ∈ Rule.early ++ [.connector, .boundary, .column, .arity, .emptiness],
      Keeps schema root method rule := by
  obtain ⟨hmapped, hresolves, hconnectors⟩ := resolves_of_resolve hcriteria
  obtain ⟨hand, hboundary, hscalar, harity, hsome⟩ := (criteria.flaw?_eq_none_iff _ _).mp hrules
  rw [List.forall_mem_append]
  refine ⟨keeps_before_connector hname hverb hmapped hresolves, ?_⟩
  simp [keeps_connector hname (hconnectors ▸ hand),
    keeps_boundary hname hresolves fun predicate hm => (hboundary predicate hm).1,
    keeps_column hname hresolves hscalar, keeps_arity hname hresolves harity,
    keeps_emptiness hname hresolves hsome]

theorem firstBroken_of_parse {violation : Violation}
    (h : MethodName.parse method = .error violation) :
    FirstBroken schema root method violation := by
  rcases (MethodName.parse_eq_error_iff _ _).mp h with ⟨c, hc, rfl⟩ | ⟨hall, hstart, rfl⟩
  · have hletters : Breaks schema root method .letters (.unexpectedCharacter c) :=
      .letters c (by simpa [MethodName.isNameChar] using hc)
    exact firstBroken_of_breaks [] _ rfl hletters (by simp)
  · refine firstBroken_of_breaks [.letters] _ rfl (.start hstart) ?_
    rw [List.forall_mem_singleton]
    rintro ⟨_, hbreaks⟩
    cases hbreaks with
    | letters found hfound =>
        have hchar := hall found hfound.mem.1
        simp [MethodName.isNameChar, hfound.mem.2] at hchar

theorem firstBroken_of_resolve {violation : Violation} (hname : MethodName.parse method = .ok name)
    (hverb : name.verb ∈ Verb.reading)
    (h : Criteria.resolve schema root name = .error violation) :
    FirstBroken schema root method violation := by
  have hkeeps : ∀ rule ∈ [Rule.letters, .start, .verb], Keeps schema root method rule :=
    keeps_before_root hname hverb
  rcases (Criteria.resolve_eq_error_iff _ _ _ _).mp h with ⟨hunmapped, rfl⟩ | ⟨hmapped, hparts⟩
  · exact firstBroken_of_breaks _ _ rfl (.root hunmapped) hkeeps
  · obtain ⟨part, hpart, rfl⟩ := (Criteria.resolveParts_eq_error_iff _ _ _ _).mp hparts
    refine firstBroken_of_breaks ([.letters, .start, .verb] ++ [.root]) _ rfl
      (.part name part hname hpart) ?_
    rw [List.forall_mem_append, List.forall_mem_singleton]
    exact ⟨hkeeps, keeps_root hmapped⟩

-- A path that leaves the aggregate begins with a reference of the root, and the report names where
-- that leads.
theorem breaks_boundary {violation : Violation} {criteria : Criteria}
    (hname : MethodName.parse method = .ok name)
    (hresolves : Resolves schema root name criteria.predicates)
    (h : criteria.boundaryFlaw? schema root = some violation) :
    Breaks schema root method .boundary violation := by
  obtain ⟨predicate, hfirst, hflaw⟩ :=
    (Criteria.boundaryFlaw?_eq_some_iff _ _ _ _ hresolves.owned).mp h
  obtain ⟨part, hpart⟩ := hresolves.exists_part predicate hfirst.mem.1
  obtain ⟨reference, target, hreference, htarget⟩ :=
    exists_reference _ _ _ _ hpart hfirst.mem.2
  rw [Criteria.predicateFlaw?_of_reference schema root predicate reference target hfirst.mem.2
    hreference htarget] at hflaw
  obtain rfl := Option.some.inj hflaw
  exact .boundary name _ predicate reference target hname hresolves hfirst hreference htarget

theorem firstBroken_of_rules {violation : Violation} {criteria : Criteria}
    (hname : MethodName.parse method = .ok name) (hverb : name.verb ∈ Verb.reading)
    (hcriteria : Criteria.resolve schema root name = .ok criteria)
    (h : criteria.flaw? schema root = some violation) :
    FirstBroken schema root method violation := by
  obtain ⟨hmapped, hresolves, hconnectors⟩ := resolves_of_resolve hcriteria
  have hkeeps := keeps_before_connector hname hverb hmapped hresolves
  rcases (Criteria.flaw?_eq_some_iff _ _ _ _).mp h with h | ⟨hconnector, h⟩
  · obtain ⟨hor, rfl⟩ := (Criteria.connectorFlaw?_eq_some_iff _ _).mp h
    exact firstBroken_of_breaks _ _ rfl (.connector name hname (hconnectors ▸ hor)) hkeeps
  rw [Criteria.connectorFlaw?_eq_none_iff, hconnectors] at hconnector
  have hconnector : Keeps schema root method .connector := keeps_connector hname hconnector
  rcases h with h | ⟨hboundary, h⟩
  · refine firstBroken_of_breaks (Rule.early ++ [.connector]) _ rfl
      (breaks_boundary hname hresolves h) ?_
    rw [List.forall_mem_append, List.forall_mem_singleton]
    exact ⟨hkeeps, hconnector⟩
  have hboundary := keeps_boundary hname hresolves fun predicate hm =>
    ((Criteria.boundaryFlaw?_eq_none_iff _ _ _).mp hboundary predicate hm).1
  rcases h with h | ⟨hcolumn, h⟩
  · obtain ⟨predicate, hfirst, rfl⟩ := (Criteria.columnFlaw?_eq_some_iff _ _).mp h
    refine firstBroken_of_breaks (Rule.early ++ [.connector, .boundary]) _ rfl
      (.column name _ predicate hname hresolves hfirst) ?_
    rw [List.forall_mem_append]
    exact ⟨hkeeps, by simp [hconnector, hboundary]⟩
  have hcolumn := keeps_column hname hresolves ((Criteria.columnFlaw?_eq_none_iff _).mp hcolumn)
  rcases h with h | ⟨harity, h⟩
  · obtain ⟨hlength, rfl⟩ := (Criteria.arityFlaw?_eq_some_iff _ _).mp h
    refine firstBroken_of_breaks (Rule.early ++ [.connector, .boundary, .column]) _ rfl
      (.arity name _ hname hresolves hlength) ?_
    rw [List.forall_mem_append]
    exact ⟨hkeeps, by simp [hconnector, hboundary, hcolumn]⟩
  have harity := keeps_arity hname hresolves ((Criteria.arityFlaw?_eq_none_iff _).mp harity)
  obtain ⟨hnone, rfl⟩ := (Criteria.emptinessFlaw?_eq_some_iff _ _).mp h
  refine firstBroken_of_breaks (Rule.early ++ [.connector, .boundary, .column, .arity]) _ rfl
    (.emptiness name hname (hnone ▸ hresolves)) ?_
  rw [List.forall_mem_append]
  exact ⟨hkeeps, by simp [hconnector, hboundary, hcolumn, harity]⟩

-- At most two predicates pass the rules, so a name that is taken again is that of both.
theorem firstBroken_of_parameters {violation : Violation} {criteria : Criteria}
    (hname : MethodName.parse method = .ok name) (hverb : name.verb ∈ Verb.reading)
    (hcriteria : Criteria.resolve schema root name = .ok criteria)
    (hrules : criteria.flaw? schema root = none)
    (h : Parameters.ofCriteria criteria = .error violation) :
    FirstBroken schema root method violation := by
  obtain ⟨_, hresolves, _⟩ := resolves_of_resolve hcriteria
  obtain ⟨_, hboundary, _, harity, _⟩ := (criteria.flaw?_eq_none_iff _ _).mp hrules
  have hpath (predicate : Predicate) (hm : predicate ∈ criteria.predicates) :=
    hresolves.path_eq predicate hm (hboundary predicate hm).1
  obtain ⟨second, ⟨before, after, hp, _, hm⟩, rfl⟩ :=
    (Parameters.ofCriteria_eq_error_iff _ _).mp h
  obtain ⟨first, hfirst, hleaf⟩ := List.mem_map.mp hm
  rw [hp] at harity
  obtain ⟨rfl, rfl⟩ : before = [first] ∧ after = [] := by
    match before, after with
    | [], _ => cases hfirst
    | [other], [] => exact ⟨by rw [List.mem_singleton.mp hfirst], rfl⟩
    | [_], _ :: _ => simp at harity
    | _ :: _ :: _, _ =>
        simp only [List.length_append, List.length_cons] at harity
        omega
  have hrepetition : Breaks schema root method .repetition (.repeatedProperty second.leaf) :=
    .repetition name first second second.leaf hname (by rwa [hp] at hresolves)
      (hleaf ▸ hpath first (by simp [hp])) (hpath second (by simp [hp]))
  exact firstBroken_of_breaks _ _ rfl hrepetition
    (keeps_before_repetition hname hverb hcriteria hrules)

end

-- Wherever a compilation stops, it reports the first rule that is broken. No statement is refused.
theorem firstBroken_of_stops (schema : Schema) (root method : String) (violation : Violation)
    (h : Stops schema schema root method violation) :
    FirstBroken schema root method violation := by
  cases h with
  | name h => exact firstBroken_of_parse h
  | verb name hname hverb h =>
      subst h
      refine firstBroken_of_breaks [.letters, .start] _ rfl (.verb name hname hverb) ?_
      simp [keeps_letters hname, keeps_start hname]
  | criteria name hname hverb h => exact firstBroken_of_resolve hname hverb h
  | rules name criteria hname hverb hcriteria h => exact firstBroken_of_rules hname hverb hcriteria h
  | parameters name criteria hname hverb hcriteria hrules h =>
      exact firstBroken_of_parameters hname hverb hcriteria hrules h
  | plan name criteria parameters hname hverb hcriteria hrules hparameters h =>
      obtain ⟨statement, bindings, hplan⟩ := exists_plan_of_rules schema root name criteria
        parameters criteria.verb hcriteria hrules hparameters
      cases hplan.symm.trans h

theorem keeps_of_compiled (schema : Schema) (root method : String) (query : Query)
    (h : Compiled schema schema root method query) :
    ∀ rule ∈ Rule.all, Keeps schema root method rule := by
  obtain ⟨name, hname, hverb, hcriteria⟩ := h.exists_name
  obtain ⟨_, hresolves, _⟩ := resolves_of_resolve hcriteria
  have hkeeps := keeps_before_repetition hname hverb hcriteria h.rules
  have hlast := keeps_repetition hname hresolves h.leaves_nodup
  have hall : Rule.all =
      Rule.early ++ [.connector, .boundary, .column, .arity, .emptiness] ++ [.repetition] := rfl
  rw [hall, List.forall_mem_append, List.forall_mem_singleton]
  exact ⟨hkeeps, hlast⟩

-- A method fails with the report of the first rule that it breaks, and compiles where it breaks none.
-- Of the checks that no rule stands for, the one on owners finds nothing, and no statement is refused.
theorem compile_reports_first (schema : Schema) (root method : String) :
    (∀ error, compile schema root method = .error error ↔
        error.method = method ∧ FirstBroken schema root method error.violation) ∧
      ∀ criteria, Criteria.parse schema root method = .ok criteria →
        (∀ predicate ∈ criteria.predicates, predicate.path.length ≤ 1 →
          schema.isAssignable predicate.owner root) ∧
        ∀ parameters verb, criteria.flaw? schema root = none →
          Parameters.ofCriteria criteria = .ok parameters →
            ∃ statement bindings, plan schema root verb parameters = .ok (statement, bindings) := by
  refine ⟨fun error => ⟨fun h => ?_, fun ⟨hmethod, hfirst⟩ => ?_⟩, fun criteria hparse => ?_⟩
  · obtain ⟨hmethod, hstops⟩ := (compile_eq_error_iff _ _ _ _).mp h
    exact ⟨hmethod, firstBroken_of_stops _ _ _ _ hstops⟩
  · cases hc : compile schema root method with
    | ok query =>
        obtain ⟨rule, hrule, hbreaks⟩ := hfirst
        have hkeeps := keeps_of_compiled _ _ _ _ ((compile_eq_ok_iff _ _ _ _).mp hc)
        exact absurd ⟨_, hbreaks⟩ (hkeeps rule hrule.mem.1)
    | error other =>
        obtain ⟨hother, hstops⟩ := (compile_eq_error_iff _ _ _ _).mp hc
        have hviolation := (firstBroken_of_stops _ _ _ _ hstops).unique hfirst
        obtain ⟨found, reported⟩ := other
        obtain ⟨expected, violation⟩ := error
        obtain rfl : reported = violation := hviolation
        obtain rfl : found = expected := hother.trans hmethod.symm
        rfl
  · obtain ⟨name, _, hresolve⟩ := (except_bind_eq_ok _ _ _).mp hparse
    obtain ⟨_, hresolves, _⟩ := resolves_of_resolve hresolve
    exact ⟨hresolves.owned, fun parameters verb hrules hparameters =>
      exists_plan_of_rules schema root name criteria parameters verb hresolve hrules hparameters⟩

-- The first part names nothing, and parts are looked up before their connectors are looked at.
example : compile owners "Owner" "findByNickOrName" =
    .error ⟨"findByNickOrName", .unresolved "Nick" "Owner"⟩ := by
  decide +kernel

end Finder.Query
