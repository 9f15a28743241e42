import Finder.CommandLine.Run
import Finder.Proofs.Json.Reading
import Finder.Proofs.Query.Answers
import Finder.Proofs.Schema.Documents

namespace Finder

namespace Json

-- The keys of an object, in the order in which they stand.
def Draft.keys : Draft → List String
  | .object members _ => members.filterMap fun (key, _) => key.text.toOption
  | _ => []

-- What an object has under a key.
def Draft.value? (key : String) : Draft → Option Draft
  | .object members _ =>
      (members.find? fun (name, _) => name.text.toOption = some key).map Prod.snd
  | _ => none

def readNumber : Reader NumberValue
  | .number literal => Fault.raise literal.value
  | draft => .error (draft.reject "a number")

-- Under a key a value is found, and read as it was meant.
def Draft.Carries {α : Type} (draft : Draft) (key : String) (read : Reader α) (value : α) : Prop :=
  ∃ found, draft.value? key = some found ∧ read found = .ok value

theorem keys_object (members : List (String × Tree)) :
    (Tree.object members).draft.keys = members.map Prod.fst := by
  show (Tree.draftMembers members).filterMap (fun (key, _) => key.text.toOption) = _
  rw [Tree.draftMembers_eq_map, List.filterMap_map]
  simp only [Function.comp_def, text_literalOf, Except.toOption]
  rw [List.filterMap_eq_map']

theorem value?_object (members : List (String × Tree)) (key : String) :
    (Tree.object members).draft.value? key = (members.lookup key).map Tree.draft := by
  show ((Tree.draftMembers members).find? fun (name, _) => name.text.toOption = some key).map
    Prod.snd = _
  induction members with
  | nil => rfl
  | cons member rest ih =>
      have hname : (literalOf member.1).text.toOption = some member.1 := by
        rw [text_literalOf, Except.toOption]
      rw [Tree.draftMembers, List.lookup_cons]
      by_cases hkey : key = member.1
      · rw [List.find?_cons_of_pos (by simp [hname, hkey])]
        simp [hkey]
      · rw [List.find?_cons_of_neg (by simp [hname, Ne.symm hkey]), ih,
          beq_eq_false_iff_ne.mpr hkey]

theorem carries_object {α : Type} {members : List (String × Tree)} {key : String} {tree : Tree}
    {read : Reader α} {value : α} (hfound : members.lookup key = some tree)
    (hread : read tree.draft = .ok value) : (Tree.object members).draft.Carries key read value := by
  refine ⟨tree.draft, ?_, hread⟩
  rw [value?_object, hfound, Option.map_some]

end Json

namespace CommandLine

open Json

-- What is to be printed of a method that compiles, and of one that does not.
def successOf (schema : Schema) (root method : String) : Option String :=
  match Query.compile schema root method with
  | .ok query => some (method ++ " => " ++ query.text ++ "\n  placeholders: ["
      ++ ", ".intercalate query.placeholders ++ "]\n")
  | .error _ => none

def failureOf (schema : Schema) (root method : String) : Option String :=
  match Query.compile schema root method with
  | .ok _ => none
  | .error error =>
      some (method ++ " => error[" ++ error.violation.code ++ "]: " ++ error.message ++ "\n")

-- What is read where the report on a method was written as an object.
def elementOf (schema : Schema) (root method : String) : Draft :=
  (MethodReport.ofMethod schema root method).tree.draft

-- An object that says what became of a method.
inductive Tells (schema : Schema) (root method : String) (element : Draft) : Prop
  | compiled (query : Query) (hquery : Query.compile schema root method = .ok query)
      (hkeys : element.keys = ["arity", "method", "placeholders", "sql"])
      (hmethod : element.Carries "method" readText method)
      (hsql : element.Carries "sql" readText query.text)
      (hplaceholders : element.Carries "placeholders" (readList readText) query.placeholders)
      (harity : element.Carries "arity" readNumber (.integer query.arity))
  | rejected (error : CompileError) (herror : Query.compile schema root method = .error error)
      (hkeys : element.keys = ["error", "message", "method"])
      (hmethod : element.Carries "method" readText method)
      (hcode : element.Carries "error" readText error.violation.code)
      (hmessage : element.Carries "message" readText error.message)

-- A run leaves the reports on all methods, in the order of the command line. The report on a method
-- is made of the schema, the root and that method, and of nothing else.
structure Faithful (schema : Schema) (options : Options) (exit : Exit) : Prop where
  code_eq_zero_iff : exit.code = 0 ↔
    ∀ method ∈ options.methods, ∃ query, Query.compile schema options.root method = .ok query
  code_cases : exit.code = 0 ∨ exit.code = 1
  plain : options.json = false →
    exit.stdout = String.join (options.methods.filterMap (successOf schema options.root)) ∧
      exit.stderr = String.join (options.methods.filterMap (failureOf schema options.root))
  json : options.json = true → exit.stderr = "" ∧
    Document.parse exit.stdout =
      ⟨.list (options.methods.map (elementOf schema options.root)) .closed, false⟩ ∧
    ∀ method, Tells schema options.root method (elementOf schema options.root method)

-- The log is off or was started, and the file holds the schema.
structure Accepts {World : Type} (surroundings : Surroundings (StateM World)) (start : World)
    (options : Options) (schema : Schema) : Prop where
  started : ((startLog surroundings options.log).run start).1 = none
  loaded : loadSchema options.mapping ((surroundings.read options.mapping).run
    ((startLog surroundings options.log).run start).2).1 = .ok schema

theorem intercalate_eq_join (texts : List String) : "".intercalate texts = String.join texts := by
  induction texts with
  | nil => rfl
  | cons first rest ih =>
      cases rest with
      | nil => simp
      | cons second rest =>
          rw [String.intercalate_cons_cons, String.append_empty, ih]
          exact String.join_cons.symm

-- What is left out is as good as empty.
theorem join_map_eq {α : Type} (list : List α) (f : α → String) (g : α → Option String)
    (h : ∀ a, f a = (g a).getD "") : String.join (list.map f) = String.join (list.filterMap g) := by
  induction list with
  | nil => rfl
  | cons a rest ih =>
      rw [List.map_cons, String.join_cons, ih, h]
      cases hfound : g a with
      | none =>
          rw [List.filterMap_cons_none hfound]
          exact String.empty_append
      | some text =>
          rw [List.filterMap_cons_some hfound]
          exact String.join_cons.symm

namespace MethodReport

theorem text_ofMethod (schema : Schema) (root method : String) :
    (ofMethod schema root method).text = (successOf schema root method).getD "" := by
  rw [text, ofMethod, successOf]
  cases Query.compile schema root method <;> rfl

theorem complaint_ofMethod (schema : Schema) (root method : String) :
    (ofMethod schema root method).complaint = (failureOf schema root method).getD "" := by
  rw [complaint, ofMethod, failureOf]
  cases Query.compile schema root method <;> rfl

theorem failed_ofMethod_eq_false_iff (schema : Schema) (root method : String) :
    (ofMethod schema root method).failed = false ↔
      ∃ query, Query.compile schema root method = .ok query := by
  rw [failed, ofMethod]
  cases Query.compile schema root method <;> simp

end MethodReport

theorem readList_texts (values : List String) :
    readList readText (Tree.list (values.map Tree.text)).draft = .ok values := by
  refine readList_of_forall₂ _ _ _ ?_
  rw [List.forall₂_map_right_iff, List.forall₂_same]
  intro value _
  exact readText_text value

theorem readNumber_arity (query : Query) (hquery : query.arity ≤ 2) :
    readNumber (Tree.integer query.arity).draft = .ok (.integer query.arity) := by
  have hfits : query.arity ≤ NumberLiteral.greatestSignificand :=
    hquery.trans (by decide)
  rw [Tree.draft, readNumber, value_numeralOf query.arity hfits]
  rfl

theorem arity_le (schema : Schema) (root method : String) (query : Query)
    (hquery : Query.compile schema root method = .ok query) : query.arity ≤ 2 := by
  have hcompiled := (Query.compile_eq_ok_iff _ _ _ _).mp hquery
  obtain ⟨_, _, _, hfew, _⟩ := (query.criteria.flaw?_eq_none_iff _ _).mp hcompiled.rules
  rwa [hcompiled.arity_eq]

theorem tells_elementOf (schema : Schema) (root method : String) :
    Tells schema root method (elementOf schema root method) := by
  rw [elementOf, MethodReport.tree, MethodReport.ofMethod]
  cases h : Query.compile schema root method with
  | ok query =>
      have harity := readNumber_arity query (arity_le schema root method query h)
      exact .compiled query h (keys_object _) (carries_object rfl (readText_text method))
        (carries_object rfl (readText_text query.text))
        (carries_object rfl (readList_texts query.placeholders)) (carries_object rfl harity)
  | error error =>
      exact .rejected error h (keys_object _) (carries_object rfl (readText_text method))
        (carries_object rfl (readText_text error.violation.code))
        (carries_object rfl (readText_text error.message))

theorem code_ofReports (json : Bool) (reports : List MethodReport) :
    (Exit.ofReports json reports).code = if reports.any MethodReport.failed then 1 else 0 := by
  cases json <;> rfl

-- The reports on all methods, whether they are printed as text or as a list of objects.
theorem faithful_ofReports (schema : Schema) (options : Options) :
    Faithful schema options (.ofReports options.json
      (options.methods.map (MethodReport.ofMethod schema options.root))) := by
  have hfailed : (options.methods.map (MethodReport.ofMethod schema options.root)).any
      MethodReport.failed = false ↔
        ∀ method ∈ options.methods, ∃ query, Query.compile schema options.root method = .ok query := by
    rw [List.any_map, List.any_eq_false]
    simp only [Function.comp_apply, Bool.not_eq_true, MethodReport.failed_ofMethod_eq_false_iff]
  constructor
  case code_eq_zero_iff =>
    rw [code_ofReports, ← hfailed]
    split <;> simp_all
  case code_cases =>
    rw [code_ofReports]
    split
    · exact .inr rfl
    · exact .inl rfl
  case plain =>
    intro hplain
    rw [hplain]
    constructor
    · show "".intercalate _ = _
      rw [List.map_map, intercalate_eq_join]
      exact join_map_eq _ _ _ (MethodReport.text_ofMethod schema options.root)
    · show "".intercalate _ = _
      rw [List.map_map, intercalate_eq_join]
      exact join_map_eq _ _ _ (MethodReport.complaint_ofMethod schema options.root)
  case json =>
    intro hjson
    rw [hjson]
    refine ⟨rfl, ?_, tells_elementOf schema options.root⟩
    rw [Exit.ofReports, if_pos rfl, Exit.json,
      Document.parse_of_writtenAs _ _ (Tree.writtenAs_indentedText _), Tree.draft,
      Tree.draftItems_eq_map, List.map_map, List.map_map]
    rfl

theorem run_bind_fst {World α β : Type} (action : StateM World α) (next : α → StateM World β)
    (start : World) :
    ((action >>= next).run start).1 =
      ((next (action.run start).1).run (action.run start).2).1 := rfl

-- A run that comes to its methods reports on them. What is written to the log changes nothing.
theorem run_eq_ofReports {World : Type} (surroundings : Surroundings (StateM World)) (start : World)
    (arguments : List String) (options : Options) (schema : Schema)
    (hrequest : Request.ofArguments arguments = .run options)
    (haccepts : Accepts surroundings start options schema) :
    ((run surroundings arguments).run start).1 = .ofReports options.json
      (options.methods.map (MethodReport.ofMethod schema options.root)) := by
  obtain ⟨hstarted, hloaded⟩ := haccepts
  rw [run, hrequest]
  show ((runOptions surroundings options).run start).1 = _
  rw [runOptions, run_bind_fst, hstarted]
  dsimp only
  rw [run_bind_fst, hloaded]
  dsimp only
  rw [run_bind_fst]
  rfl

namespace Given

-- The form is kept apart from all else that is given.
theorem set?_json (given next : Given) (option : ValueOption) (value : String) (json : Bool)
    (h : given.set? option value = some next) :
    next.json = given.json ∧
      { given with json := json }.set? option value = some { next with json := json } := by
  unfold set? at h ⊢
  split at h
  next haccepted =>
    cases h
    exact ⟨rfl, if_pos haccepted⟩
  next => cases h

theorem request_json (given : Given) (options : Options) (json : Bool)
    (h : given.request = .run options) :
    options.json = given.json ∧
      { given with json := json }.request = .run { options with json := json } := by
  unfold request at h ⊢
  split at h
  next mapping root log hmapping hroot hlog =>
    have hlog' : { given with json := json }.log? = some log := hlog
    rw [hmapping, hroot, hlog']
    dsimp only
    split at h
    next => cases h
    next hsome =>
      cases h
      exact ⟨rfl, if_neg hsome⟩
  next => cases h

end Given

namespace Request

-- A run is asked for in the form of objects only if that is given or said.
theorem json_of_ofItems (items : List Item) (given : Given) (options : Options)
    (hgiven : given.json = true) (h : ofItems given items = .run options) :
    options.json = true := by
  induction items generalizing given with
  | nil => exact (given.request_json options true h).1.trans hgiven
  | cons item rest ih =>
      cases item with
      | method name =>
          rw [ofItems] at h
          exact ih { given with methods := name :: given.methods } hgiven h
      | set option value =>
          rw [ofItems] at h
          split at h
          next next hset => exact ih next ((given.set?_json _ _ _ true hset).1.trans hgiven) h
          next => cases h
      | json => simp [ofItems, Given.setJson?, hgiven] at h
      | version | help | misuse => simp [ofItems] at h

-- Where the form is not asked for, it can be, and all else stays.
theorem ofItems_json (items : List Item) (given : Given) (options : Options)
    (hjson : options.json = false) (h : ofItems given items = .run options) :
    ofItems { given with json := true } items = .run { options with json := true } := by
  induction items generalizing given with
  | nil => exact (given.request_json options true h).2
  | cons item rest ih =>
      cases item with
      | method name =>
          rw [ofItems] at h ⊢
          exact ih { given with methods := name :: given.methods } h
      | set option value =>
          rw [ofItems] at h ⊢
          split at h
          next next hset =>
            rw [(given.set?_json _ _ _ true hset).2]
            exact ih next h
          next => cases h
      | json =>
          rw [ofItems] at h
          split at h
          next next hset =>
            have hnext : next.json = true := by
              unfold Given.setJson? at hset
              split at hset
              · cases hset
              · cases hset
                rfl
            rw [json_of_ofItems rest next options hnext h] at hjson
            cases hjson
          next => cases h
      | version | help | misuse => simp [ofItems] at h

theorem ofArguments_json (arguments : List String) (options : Options)
    (hjson : options.json = false) (h : ofArguments arguments = .run options) :
    ofArguments ("--json" :: arguments) = .run { options with json := true } := by
  have hitems : Item.ofArguments ("--json" :: arguments) = .json :: Item.ofArguments arguments := by
    have hform : Form.ofArgument "--json" = .whole .json := by decide
    rw [Item.ofArguments, hform]
  rw [ofArguments, hitems]
  exact ofItems_json _ .nothing options hjson h

end Request

-- The program reports on every method as it is compiled, and exits in the same way in either form.
theorem run_faithful {World : Type} (surroundings : Surroundings (StateM World)) (start : World)
    (arguments : List String) (options : Options) (schema : Schema)
    (hrequest : Request.ofArguments arguments = .run options)
    (haccepts : Accepts surroundings start options schema) :
    Faithful schema options ((run surroundings arguments).run start).1 ∧
      (options.json = false →
        Request.ofArguments ("--json" :: arguments) = .run { options with json := true }) ∧
      ∀ others json, Request.ofArguments others = .run { options with json := json } →
        ((run surroundings others).run start).1.code =
          ((run surroundings arguments).run start).1.code := by
  have hexit := run_eq_ofReports surroundings start arguments options schema hrequest haccepts
  refine ⟨?_, fun hjson => Request.ofArguments_json arguments options hjson hrequest, ?_⟩
  · rw [hexit]
    exact faithful_ofReports schema options
  · intro others json hothers
    have haccepts' : Accepts surroundings start { options with json := json } schema :=
      ⟨haccepts.started, haccepts.loaded⟩
    rw [hexit, run_eq_ofReports surroundings start others _ schema hothers haccepts',
      code_ofReports, code_ofReports]

-- A mapping file with the owners and their pets.
def ownersText : String :=
  Query.owners.tree.indentedText ++ "\n"

-- Only this file can be read. The events that were reported are kept in their order.
def ownersOnly : Surroundings (StateM (List Event)) where
  startLog _ := return none
  record event := modify (· ++ [event])
  read path := return if path.text = "owners.json" then .ok ownersText.toUTF8 else .error "missing"

def ownersOptions : Options :=
  ⟨⟨"owners.json"⟩, "Owner", none, false, ["findByName", "findByAge", "findByName"]⟩

theorem ownersOnly_accepts : Accepts ownersOnly [] ownersOptions Query.owners := by
  have hbytes : String.fromUTF8? ownersText.toUTF8 = some ownersText := by
    have hvalid : ownersText.toUTF8.IsValidUTF8 := ownersText.isValidUTF8
    rw [String.fromUTF8?, dif_pos hvalid]
    rfl
  refine ⟨rfl, ?_⟩
  show Schema.ofFile "owners.json" ownersText.toUTF8 = _
  rw [Schema.ofFile, hbytes]
  exact Query.owners.ofDocument_tree ownersText Query.owners.tree.writtenAs_indentedText

def ownersArguments : List String :=
  ["--mapping", "owners.json", "--root=Owner", "findByName", "findByAge", "findByName"]

theorem run_faithful_owners :
    Request.ofArguments ownersArguments = .run ownersOptions ∧
      Accepts ownersOnly [] ownersOptions Query.owners ∧
      ∃ exit, ((run ownersOnly ownersArguments).run []).1 = exit ∧ exit.code = 1 ∧
        exit.stderr = "findByAge => error[unresolvable_property]: cannot derive query from " ++
          "`findByAge`: no property `Age` found on `Owner`\n" := by
  have hrequest : Request.ofArguments ownersArguments = .run ownersOptions := by decide +kernel
  obtain ⟨hfaithful, _⟩ := run_faithful ownersOnly [] ownersArguments ownersOptions Query.owners
    hrequest ownersOnly_accepts
  have hage : Query.compile Query.owners "Owner" "findByAge" =
      .error ⟨"findByAge", .unresolved "Age" "Owner"⟩ := by decide +kernel
  refine ⟨hrequest, ownersOnly_accepts, _, rfl, hfaithful.code_cases.resolve_left ?_, ?_⟩
  · rw [hfaithful.code_eq_zero_iff]
    intro hall
    obtain ⟨query, hquery⟩ := hall "findByAge" (by simp [ownersOptions])
    have hfails := hage.symm.trans hquery
    cases hfails
  · rw [(hfaithful.plain rfl).2]
    decide +kernel

end CommandLine

end Finder
