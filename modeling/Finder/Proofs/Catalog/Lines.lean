import Finder.Proofs.Catalog.Trace
import Finder.Proofs.Criteria.Search
import Finder.Proofs.Query.Failures
import Finder.Proofs.Query.Placeholders
import Finder.Proofs.Text.OneLine

namespace Finder

open Text

theorem Text.oneLine_of_isNameChar {text : String}
    (h : ∀ c ∈ text.toList, MethodName.isNameChar c) : OneLine text :=
  oneLine_of_chars MethodName.isNameChar (by decide +kernel) (by decide +kernel) h

theorem Cuts.mem_of_mem_piece {part : List Char} {pieces : List (List Char)} (h : Cuts part pieces)
    (piece : List Char) (hp : piece ∈ pieces) (c : Char) (hc : c ∈ piece) :
    c ∈ part ∧ c ≠ '_' := by
  obtain ⟨front, behind, rfl, hcut⟩ := h
  constructor
  · rw [hcut.joined]
    rcases List.mem_append.mp hp with hp | hp
    · refine List.mem_append_left _ (List.mem_flatMap.mpr ⟨piece, hp, ?_⟩)
      exact List.mem_append_left _ hc
    · exact List.mem_append_right _ (List.mem_flatten.mpr ⟨piece, hp, hc⟩)
  · rintro rfl
    exact hcut.plain piece hp hc

theorem Declarations.Leads.isPlain_of_mem {schema : Schema} {entity : String}
    {pieces : List (List Char)} {found : List OwnedProperty}
    (h : schema.Leads entity pieces found) (hpieces : ∀ piece ∈ pieces, ∀ c ∈ piece, isPlain c) :
    ∀ property ∈ found, ∀ c ∈ property.property.name.toList, isPlain c := by
  induction h with
  | @last entity piece found names =>
      rw [List.forall_mem_singleton] at hpieces ⊢
      exact schema.isPlain_of_mem_name entity piece found names hpieces
  | @step entity target piece pieces found later names refers rest ih =>
      rw [List.forall_mem_cons] at hpieces ⊢
      exact ⟨schema.isPlain_of_mem_name entity piece found names hpieces.1, ih hpieces.2⟩

-- No step on the path of a predicate has other characters than a method name may have.
theorem oneLine_of_mem_path (schema : Schema) (entity : String) (part : List Char)
    (hpart : ∀ c ∈ part, MethodName.isNameChar c) (predicate : Predicate)
    (h : resolvePart schema.toDeclarations entity part = some predicate) :
    ∀ name ∈ predicate.path, OneLine name := by
  have hchosen := chosen_resolvePart schema entity part
  rw [h] at hchosen
  cases hchosen with
  | greatest pieces found _ hadmissible hfollows _ =>
      have hpieces : ∀ piece ∈ pieces, ∀ c ∈ piece, isPlain c := by
        intro piece hp c hc
        obtain ⟨hmem, hne⟩ := hadmissible.cuts.mem_of_mem_piece piece hp c hc
        exact isPlain_of_isAlphanumeric c (by simpa [MethodName.isNameChar, hne] using hpart c hmem)
      have hplain := hadmissible.leads.isPlain_of_mem hpieces
      rw [hfollows.path_eq, List.forall_mem_map]
      exact fun property hm => oneLine_of_isPlain (hplain property hm)

namespace Query

variable {schema : Schema} {root method : String}

section

variable {name : MethodName} {predicates : List Predicate}

theorem Resolves.oneLine_of_mem_path (hname : MethodName.parse method = .ok name)
    (h : Resolves schema root name predicates) (predicate : Predicate)
    (hm : predicate ∈ predicates) : ∀ step ∈ predicate.path, OneLine step := by
  obtain ⟨rest, hreads⟩ := MethodName.reads_of_parse method name hname
  obtain ⟨part, hp, hresolved⟩ := exists_left_of_forall₂ h predicate hm
  refine Finder.oneLine_of_mem_path schema root part.toList ?_ predicate hresolved
  intro c hc
  exact MethodName.isNameChar_of_parse method name hname c (hreads.mem_of_mem_part part hp c hc)

theorem Resolves.oneLine_dotted (hname : MethodName.parse method = .ok name)
    (h : Resolves schema root name predicates) (predicate : Predicate)
    (hm : predicate ∈ predicates) : OneLine predicate.dotted :=
  oneLine_intercalate _ _ (oneLine_ofList _ (by decide)) (h.oneLine_of_mem_path hname predicate hm)

end

-- The one name in a message that is neither the program's nor spelt like a method name is that of
-- the entity behind a reference.
theorem Breaks.oneLine_message_iff {rule : Rule} {violation : Violation}
    (h : Breaks schema root method rule violation) (hmethod : OneLine method)
    (hroot : OneLine root) :
    OneLine violation.message ↔
      ∀ path owner, violation = .outsideAggregate path owner root → OneLine owner := by
  cases h with
  | letters found h =>
      have hfound : OneLine found.toString := by
        intro c hc
        obtain rfl : c = found := by simpa using hc
        exact hmethod c h.mem.1
      refine iff_of_true ?_ (by simp)
      show OneLine ("malformed method name: unexpected character `" ++ found.toString ++ "`")
      rw [oneLine_quoted _ _ _ (by decide) (by decide)]
      exact hfound
  | start h => exact iff_of_true (oneLine_ofList _ (by decide)) (by simp)
  | verb name hname h =>
      obtain ⟨rest, hreads⟩ := MethodName.reads_of_parse method name hname
      have hverb : OneLine (name.verb ++ rest) := hreads.name_eq ▸ hmethod
      refine iff_of_true ?_ (by simp)
      show OneLine ("verb `" ++ name.verb ++ "` is not a read-only query verb")
      rw [oneLine_quoted _ _ _ (by decide) (by decide)]
      exact ((oneLine_append _ _).mp hverb).1
  | root h =>
      refine iff_of_true ?_ (by simp)
      show OneLine ("aggregate root `" ++ root ++ "` is not mapped")
      rw [oneLine_quoted _ _ _ (by decide) (by decide)]
      exact hroot
  | part name part hname h =>
      obtain ⟨rest, hreads⟩ := MethodName.reads_of_parse method name hname
      have hpart : OneLine part :=
        fun c hc => hmethod c (hreads.mem_of_mem_part part h.mem.1 c hc)
      have hfront : OneLine ("no property `" ++ part ++ "` found on `") := by
        rw [oneLine_quoted _ _ _ (by decide) (by decide)]
        exact hpart
      refine iff_of_true ?_ (by simp)
      show OneLine ("no property `" ++ part ++ "` found on `" ++ root ++ "`")
      rw [oneLine_between _ _ _ hfront (oneLine_ofList _ (by decide))]
      exact hroot
  | connector name hname h =>
      refine iff_of_true ?_ (by simp)
      show OneLine ("connector `" ++ Connector.or.keyword ++
        "` is not supported; only `And` may join predicates")
      rw [oneLine_quoted _ _ _ (by decide) (by decide)]
      exact oneLine_ofList _ (by decide)
  | boundary name predicates predicate reference target hname hresolves h hreference htarget =>
      have hdotted := hresolves.oneLine_dotted hname predicate h.mem.1
      have hfront : OneLine ("property `" ++ predicate.dotted ++ "` is owned by `") := by
        rw [oneLine_quoted _ _ _ (by decide) (by decide)]
        exact hdotted
      have hmessage : OneLine ("property `" ++ predicate.dotted ++ "` is owned by `" ++ target ++
          "`, outside aggregate root `" ++ root ++ "`") ↔ OneLine target := by
        rw [oneLine_append, oneLine_append, and_iff_left (oneLine_ofList _ (by decide)),
          and_iff_left hroot, oneLine_between _ _ _ hfront (oneLine_ofList _ (by decide))]
      show OneLine ("property `" ++ predicate.dotted ++ "` is owned by `" ++ target ++
        "`, outside aggregate root `" ++ root ++ "`") ↔ _
      rw [hmessage]
      simp
  | column name predicates predicate hname hresolves h =>
      have hdotted := hresolves.oneLine_dotted hname predicate h.mem.1
      refine iff_of_true ?_ (by simp)
      show OneLine ("property `" ++ predicate.dotted ++
        "` references an entity; only column properties can be compared")
      rw [oneLine_quoted _ _ _ (by decide) (by decide)]
      exact hdotted
  | arity name predicates hname hresolves h =>
      have hfront : OneLine (toString predicates.length ++ " predicates found; at most ") :=
        (oneLine_append _ _).mpr ⟨oneLine_toString _, oneLine_ofList _ (by decide)⟩
      refine iff_of_true ?_ (by simp)
      show OneLine (toString predicates.length ++ " predicates found; at most " ++
        toString maxPredicates ++ " are supported")
      rw [oneLine_between _ _ _ hfront (oneLine_ofList _ (by decide))]
      exact oneLine_toString _
  | emptiness name hname hresolves => exact iff_of_true (oneLine_ofList _ (by decide)) (by simp)
  | repetition name first second property hname hresolves hfirst hsecond =>
      have hproperty := hresolves.oneLine_of_mem_path hname first (by simp) property (by simp [hfirst])
      refine iff_of_true ?_ (by simp)
      show OneLine ("property `" ++ property ++ "` is referenced more than once")
      rw [oneLine_quoted _ _ _ (by decide) (by decide)]
      exact hproperty

-- The message of a compilation that fails has a line break where the names it was given have one,
-- or else the entity that a path leads to.
theorem oneLine_message_iff {error : CompileError} (h : compile schema root method = .error error)
    (hmethod : OneLine method) (hroot : OneLine root) :
    OneLine error.message ↔
      ∀ path owner, error = ⟨method, .outsideAggregate path owner root⟩ → OneLine owner := by
  obtain ⟨hsame, hstops⟩ := (compile_eq_error_iff _ _ _ _).mp h
  obtain ⟨rule, _, hbreaks⟩ := firstBroken_of_stops _ _ _ _ hstops
  have hfront : OneLine ("cannot derive query from `" ++ error.method ++ "`: ") := by
    rw [oneLine_quoted _ _ _ (by decide) (by decide), hsame]
    exact hmethod
  have hmessage : OneLine error.message ↔ OneLine error.violation.message := by
    show OneLine ("cannot derive query from `" ++ error.method ++ "`: " ++
      error.violation.message) ↔ _
    rw [oneLine_append, and_iff_right hfront]
  rw [hmessage, hbreaks.oneLine_message_iff hmethod hroot]
  obtain ⟨_, violation⟩ := error
  obtain rfl := hsame
  simp only [CompileError.mk.injEq, true_and]

end Query

theorem Violation.oneLine_code (violation : Violation) : OneLine violation.code := by
  cases violation <;> exact oneLine_ofList _ (by decide)

-- A line, however long a compilation took.
def Line.Unbroken (line : Line) : Prop :=
  ∀ micros : Nat, OneLine (line.text (toString micros))

namespace Line

theorem unbroken_ofCompilation_iff (root method : String) (result : Except CompileError Query) :
    (ofCompilation root method result).Unbroken ↔ OneLine method ∧ OneLine root := by
  have hroot : OneLine " root=" := oneLine_ofList _ (by decide)
  have hduration : OneLine " duration_us=" := oneLine_ofList _ (by decide)
  cases result with
  | ok query =>
      have hstart : OneLine "event=query_compile module=query status=ok method=" :=
        oneLine_ofList _ (by decide)
      have hpredicates : OneLine " predicates=" := oneLine_ofList _ (by decide)
      show (∀ micros : Nat, OneLine ("event=query_compile module=query status=ok method=" ++ method
        ++ " root=" ++ root ++ " predicates=" ++ toString query.criteria.predicates.length
        ++ " duration_us=" ++ toString micros)) ↔ _
      simp only [oneLine_append, oneLine_toString, hstart, hroot, hpredicates, hduration, true_and,
        and_true, forall_const]
  | error error =>
      have hstart : OneLine "event=query_compile module=query status=error method=" :=
        oneLine_ofList _ (by decide)
      have hcode : OneLine " error_code=" := oneLine_ofList _ (by decide)
      show (∀ micros : Nat, OneLine ("event=query_compile module=query status=error method="
        ++ method ++ " root=" ++ root ++ " error_code=" ++ error.violation.code
        ++ " duration_us=" ++ toString micros)) ↔ _
      simp only [oneLine_append, oneLine_toString, error.violation.oneLine_code, hstart, hroot,
        hcode, hduration, true_and, and_true, forall_const]

theorem unbroken_ofExecution (query : Query) (rows : Nat) : (ofExecution query rows).Unbroken := by
  intro micros
  show OneLine (query.executionText _ rows)
  unfold Query.executionText
  split
  · exact (oneLine_append _ _).mpr ⟨oneLine_ofList _ (by decide), oneLine_toString _⟩
  · refine (oneLine_append _ _).mpr ⟨?_, oneLine_toString _⟩
    exact (oneLine_quoted _ _ _ (by decide) (by decide)).mpr (oneLine_toString _)

theorem unbroken_ofFailure_iff (declaration : Declaration) (error : CatalogError) :
    (∀ line ∈ ofFailure declaration (.error error), line.Unbroken) ↔
      OneLine declaration.method ∧ OneLine error.message := by
  have hstart : OneLine "event=query_register module=query status=error method=" :=
    oneLine_ofList _ (by decide)
  have herror : OneLine " error=" := oneLine_ofList _ (by decide)
  rw [ofFailure, List.forall_mem_singleton]
  show (∀ _ : Nat, OneLine ("event=query_register module=query status=error method=" ++
    declaration.method ++ " error=" ++ error.message)) ↔ _
  simp only [oneLine_append, hstart, herror, true_and, and_true, forall_const]

end Line

namespace Catalog

-- The names that a step writes have no line break. A name that is stored was compiled, and cannot
-- have one; several declarations at once also write the messages of those that failed.
def Step.Unbroken (schema : Schema) (before : List Declaration) : Step → Prop
  | .compile root method => OneLine method ∧ OneLine root
  | .present (.one declaration) =>
      (∀ entry, ¬Stored schema before declaration.method entry) →
        OneLine declaration.method ∧ OneLine declaration.root
  | .present (.several declarations) =>
      ∀ earlier declaration later, declarations = earlier ++ declaration :: later →
        (∀ entry, ¬Stored schema (before ++ earlier) declaration.method entry) →
          OneLine declaration.method ∧ OneLine declaration.root ∧
            ∀ path owner, Query.compile schema declaration.root declaration.method =
                .error ⟨declaration.method, .outsideAggregate path owner declaration.root⟩ →
              OneLine owner
  | .execute _ _ _ _ => True

variable {schema : Schema} {before : List Declaration}

theorem Stored.oneLine {name : String} {entry : CatalogEntry}
    (h : Stored schema before name entry) : OneLine name := by
  obtain ⟨root, hcompiled⟩ := h.compiled
  obtain ⟨parsed, hparsed, _⟩ := hcompiled.exists_name
  exact oneLine_of_isNameChar (MethodName.isNameChar_of_parse name parsed hparsed)

section

variable {declaration : Declaration} {result : Except CatalogError CatalogEntry}

theorem Answered.unbroken_iff (h : Answered schema before declaration result) :
    (∀ line ∈ Line.ofAnswer declaration result, line.Unbroken) ↔
      ((∀ entry, ¬Stored schema before declaration.method entry) →
        OneLine declaration.method ∧ OneLine declaration.root) := by
  cases h with
  | duplicate entry hstored =>
      refine iff_of_true (by simp [Line.ofAnswer]) fun hnew => ?_
      exact absurd hstored (hnew entry)
  | rejected error hnew h =>
      rw [Line.ofAnswer, List.forall_mem_singleton, Line.unbroken_ofCompilation_iff,
        forall_prop_of_true hnew]
  | stored query hnew h =>
      rw [Line.ofAnswer, List.forall_mem_singleton, Line.unbroken_ofCompilation_iff,
        forall_prop_of_true hnew]

theorem Answered.unbroken_next_iff (h : Answered schema before declaration result) :
    (∀ line ∈ Line.ofAnswer declaration result ++ Line.ofFailure declaration result,
        line.Unbroken) ↔
      ((∀ entry, ¬Stored schema before declaration.method entry) →
        OneLine declaration.method ∧ OneLine declaration.root ∧
          ∀ path owner, Query.compile schema declaration.root declaration.method =
              .error ⟨declaration.method, .outsideAggregate path owner declaration.root⟩ →
            OneLine owner) := by
  rw [List.forall_mem_append, h.unbroken_iff]
  cases h with
  | duplicate entry hstored =>
      have hmessage : OneLine ("query method already registered: " ++ declaration.method) :=
        (oneLine_append _ _).mpr ⟨oneLine_ofList _ (by decide), hstored.oneLine⟩
      have hfailure := (Line.unbroken_ofFailure_iff declaration (.alreadyStored _)).mpr
        ⟨hstored.oneLine, hmessage⟩
      refine iff_of_true ⟨fun hnew => ?_, hfailure⟩ fun hnew => ?_
      · exact absurd hstored (hnew entry)
      · exact absurd hstored (hnew entry)
  | rejected error hnew h =>
      rw [forall_prop_of_true hnew, forall_prop_of_true hnew, Line.unbroken_ofFailure_iff]
      simp only [h, Except.error.injEq]
      constructor
      · rintro ⟨⟨hmethod, hroot⟩, _, hmessage⟩
        exact ⟨hmethod, hroot, (Query.oneLine_message_iff h hmethod hroot).mp hmessage⟩
      · rintro ⟨hmethod, hroot, howner⟩
        exact ⟨⟨hmethod, hroot⟩, hmethod, (Query.oneLine_message_iff h hmethod hroot).mpr howner⟩
  | stored query hnew h =>
      rw [forall_prop_of_true hnew, forall_prop_of_true hnew]
      simp [Line.ofFailure, h]

end

theorem OwesAll.unbroken_iff {declarations : List Declaration}
    {results : List (Except CatalogError CatalogEntry)} {lines : List Line}
    (h : OwesAll schema before declarations results lines) :
    (∀ line ∈ lines, line.Unbroken) ↔
      Step.Unbroken schema before (.present (.several declarations)) := by
  induction h with
  | nil before => simp [Step.Unbroken]
  | cons first _ ih =>
      rw [List.forall_mem_append, first.unbroken_next_iff, ih]
      simp only [Step.Unbroken, forall_split_cons, List.append_nil, List.append_assoc,
        List.singleton_append]

theorem Owes.unbroken_iff {catalog : Catalog} {step : Step} {lines : List Line}
    (h : Owes schema before catalog step lines) :
    (∀ line ∈ lines, line.Unbroken) ↔ step.Unbroken schema before := by
  cases h with
  | compile root method =>
      rw [List.forall_mem_singleton, Line.unbroken_ofCompilation_iff]
      rfl
  | one declaration h => exact h.unbroken_iff
  | several declarations lines h => exact h.unbroken_iff
  | unknown => exact iff_of_true (by simp) trivial
  | stopped => exact iff_of_true (by simp) trivial
  | completed _ _ _ _ entry count =>
      rw [List.forall_mem_singleton]
      exact iff_of_true (Line.unbroken_ofExecution entry.query count) trivial

theorem Traced.unbroken_iff {catalog : Catalog} {steps : List Step} {lines : List Line}
    (h : Traced schema before catalog steps lines) :
    (∀ line ∈ lines, line.Unbroken) ↔
      ∀ earlier step later, steps = earlier ++ step :: later →
        step.Unbroken schema (before ++ earlier.flatMap Step.declarations) := by
  induction h with
  | nil before catalog => simp
  | cons first _ ih =>
      rw [List.forall_mem_append, first.unbroken_iff, ih, forall_split_cons]
      simp only [List.flatMap_nil, List.append_nil, List.flatMap_cons, List.append_assoc]

-- The records of a log are one line each just when no step writes a name with a line break. It is not
-- asked of the names whether they are method names at all.
theorem log_unbroken_iff (schema : Schema) (steps : List Step) :
    (∀ event ∈ (empty schema).log steps, ∀ micros : Nat, OneLine (event.text (toString micros))) ↔
      ∀ earlier step later, steps = earlier ++ step :: later →
        step.Unbroken schema (earlier.flatMap Step.declarations) := by
  have hlines := ((holds_empty schema).traced steps).unbroken_iff
  rw [List.forall_mem_map] at hlines
  simp only [List.nil_append] at hlines
  exact hlines

-- A name that is refused for a line break is reported with it.
theorem not_log_unbroken :
    ¬∀ event ∈ (empty Query.owners).log [.compile "Owner" "find\nBy"],
      ∀ micros : Nat, OneLine (event.text (toString micros)) := by
  intro hall
  have hbroken := hall (.rejected "find\nBy" "Owner" "malformed_method_name") (by decide +kernel) 0
  revert hbroken
  decide +kernel

end Catalog

end Finder
