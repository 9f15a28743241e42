import Finder.Proofs.Parameters.Insertion
import Mathlib.Data.List.Induction

namespace Finder

-- What is asked of a set of parameters: to take one more, or to hold one alone.
inductive ParameterCall where
  | insert (parameter : Parameter)
  | single (parameter : Parameter)
  deriving DecidableEq, Repr

def ParameterCall.parameter : ParameterCall → Parameter
  | .insert parameter => parameter
  | .single parameter => parameter

namespace Parameters

-- A call with what it came to.
structure Step where
  call : ParameterCall
  insertion : Insertion
  deriving DecidableEq, Repr

def answer (parameters : Parameters) : ParameterCall → Insertion
  | .insert parameter => parameters.insert parameter
  | .single parameter => ⟨single parameter, none⟩

-- The steps that a sequence of calls makes, each on the set that the one before left.
def history (parameters : Parameters) : List ParameterCall → List Step
  | [] => []
  | call :: rest =>
      let insertion := parameters.answer call
      ⟨call, insertion⟩ :: insertion.parameters.history rest

-- The set that the last step left.
def afterSteps (parameters : Parameters) : List Step → Parameters
  | [] => parameters
  | step :: rest => step.insertion.parameters.afterSteps rest

def presented (steps : List Step) : List Parameter :=
  steps.map fun step => step.call.parameter

def taken (steps : List Step) : List Parameter :=
  presented (steps.filter fun step => step.insertion.refused.isNone)

-- The steps since a set was last made to hold one parameter alone, with the step that made it so.
inductive Since : List Step → List Step → Prop
  | start (late : List Step) (hinserts : ∀ step ∈ late, ∃ parameter, step.call = .insert parameter) :
      Since late late
  | single (early late : List Step) (step : Step) (first : Parameter)
      (hfirst : step.call = .single first)
      (hinserts : ∀ step ∈ late, ∃ parameter, step.call = .insert parameter) :
      Since (early ++ step :: late) (step :: late)

-- What a call comes to. Only the name of a parameter is looked at.
inductive Answered (parameters : Parameters) : ParameterCall → Insertion → Prop
  | refused (parameter : Parameter) (h : parameter.name ∈ parameters.names) :
      Answered parameters (.insert parameter) ⟨parameters, some parameter⟩
  | taken (parameter : Parameter) (h : parameter.name ∉ parameters.names) :
      Answered parameters (.insert parameter) ⟨⟨parameters.entries ++ [parameter]⟩, none⟩
  | single (parameter : Parameter) : Answered parameters (.single parameter) ⟨⟨[parameter]⟩, none⟩

-- What calls on an empty set amount to: the steps they made and the set they left.
structure Held (calls : List ParameterCall) (steps : List Step) (parameters : Parameters) :
    Prop where
  calls_eq : steps.map Step.call = calls
  answered : ∀ before step after, steps = before ++ step :: after →
    (empty.afterSteps before).Answered step.call step.insertion
  names_nodup : parameters.names.Nodup
  -- The set holds what was not handed back, and under a name what came first.
  held : ∃ late, Since steps late ∧ parameters.entries = taken late ∧
    ∀ name, parameters.get? name = (presented late).find? fun parameter => parameter.name == name
  get?_iff : ∀ name parameter, parameters.get? name = some parameter ↔
    parameter ∈ parameters.entries ∧ parameter.name = name
  contains_iff : ∀ name, parameters.contains name ↔ name ∈ parameters.names
  names_eq : parameters.names = parameters.entries.map Parameter.name
  size_eq : parameters.size = parameters.entries.length

section

variable {parameters : Parameters} {call : ParameterCall} {insertion : Insertion}

theorem answered_answer (parameters : Parameters) (call : ParameterCall) :
    parameters.Answered call (parameters.answer call) := by
  cases call with
  | insert parameter =>
      rw [answer]
      by_cases hm : parameter.name ∈ parameters.names
      · rw [insert_of_mem hm]
        exact .refused parameter hm
      · rw [insert_of_not_mem hm]
        exact .taken parameter hm
  | single parameter => exact .single parameter

theorem Answered.names_nodup (h : parameters.Answered call insertion)
    (hnodup : parameters.names.Nodup) : insertion.parameters.names.Nodup := by
  cases h with
  | refused parameter _ => exact hnodup
  | taken parameter hm =>
      rw [names, List.map_append, List.map_singleton, ← List.concat_eq_append]
      exact hnodup.concat hm
  | single parameter => exact List.nodup_singleton _

-- An offer adds a parameter at the end, or it adds nothing.
theorem Answered.entries_eq {parameter : Parameter}
    (h : parameters.Answered (.insert parameter) insertion) :
    insertion.parameters.entries =
      parameters.entries ++ Parameters.taken [⟨.insert parameter, insertion⟩] := by
  cases h with
  | refused _ _ => exact (List.append_nil _).symm
  | taken _ _ => rfl

-- What is found under a name stays, and what is offered is found where nothing was.
theorem Answered.get?_eq {parameter : Parameter}
    (h : parameters.Answered (.insert parameter) insertion) (name : String) :
    insertion.parameters.get? name = (parameters.get? name).or
      ([parameter].find? fun other => other.name == name) := by
  cases h with
  | refused _ hm =>
      by_cases hname : parameter.name = name
      · have hsome := (contains_iff parameters parameter.name).mpr hm
        obtain ⟨found, hfound⟩ := Option.isSome_iff_exists.mp hsome
        rw [← hname, hfound, Option.some_or]
      · rw [List.find?_cons_of_neg (by simpa using hname), List.find?_nil, Option.or_none]
  | taken _ _ => exact List.find?_append

end

theorem presented_append (before after : List Step) :
    presented (before ++ after) = presented before ++ presented after :=
  List.map_append

theorem taken_append (before after : List Step) :
    taken (before ++ after) = taken before ++ taken after := by
  rw [taken, List.filter_append, presented_append]
  rfl

theorem afterSteps_append (parameters : Parameters) (before after : List Step) :
    parameters.afterSteps (before ++ after) =
      (parameters.afterSteps before).afterSteps after := by
  induction before generalizing parameters with
  | nil => rfl
  | cons step before ih => exact ih step.insertion.parameters

theorem history_append (parameters : Parameters) (before after : List ParameterCall) :
    parameters.history (before ++ after) = parameters.history before ++
      (parameters.afterSteps (parameters.history before)).history after := by
  induction before generalizing parameters with
  | nil => rfl
  | cons call before ih =>
      rw [List.cons_append, history, history, ih]
      rfl

theorem map_call_history (parameters : Parameters) (calls : List ParameterCall) :
    (parameters.history calls).map Step.call = calls := by
  induction calls generalizing parameters with
  | nil => rfl
  | cons call calls ih => rw [history, List.map_cons, ih]

-- A step depends on the steps before it only through the set that they left.
theorem answered_of_history (parameters : Parameters) (calls : List ParameterCall)
    (before : List Step) (step : Step) (after : List Step)
    (h : parameters.history calls = before ++ step :: after) :
    (parameters.afterSteps before).Answered step.call step.insertion := by
  induction before generalizing parameters calls with
  | nil =>
      cases calls with
      | nil => cases h
      | cons call calls =>
          obtain ⟨rfl, _⟩ := List.cons.inj h
          exact answered_answer parameters call
  | cons first before ih =>
      cases calls with
      | nil => cases h
      | cons call calls =>
          obtain ⟨rfl, hrest⟩ := List.cons.inj h
          exact ih (parameters.answer call).parameters calls hrest

theorem names_nodup_history (parameters : Parameters) (calls : List ParameterCall)
    (h : parameters.names.Nodup) :
    (parameters.afterSteps (parameters.history calls)).names.Nodup := by
  induction calls generalizing parameters with
  | nil => exact h
  | cons call calls ih => exact ih _ ((answered_answer parameters call).names_nodup h)

theorem Since.insert {steps late : List Step} (h : Since steps late) (step : Step)
    (parameter : Parameter) (hcall : step.call = .insert parameter) :
    Since (steps ++ [step]) (late ++ [step]) := by
  have hlast (inserts : List Step)
      (hinserts : ∀ other ∈ inserts, ∃ parameter, other.call = .insert parameter) :
      ∀ other ∈ inserts ++ [step], ∃ parameter, other.call = .insert parameter := by
    rw [List.forall_mem_append, List.forall_mem_singleton]
    exact ⟨hinserts, parameter, hcall⟩
  cases h with
  | start _ hinserts => exact .start _ (hlast _ hinserts)
  | single early late first alone hfirst hinserts =>
      rw [List.append_assoc]
      exact .single early (late ++ [step]) first alone hfirst (hlast late hinserts)

theorem exists_since (calls : List ParameterCall) :
    ∃ late, Since (empty.history calls) late ∧
      (empty.afterSteps (empty.history calls)).entries = taken late ∧
      ∀ name, (empty.afterSteps (empty.history calls)).get? name =
        (presented late).find? fun parameter => parameter.name == name := by
  induction calls using List.reverseRecOn with
  | nil => exact ⟨[], .start [] (by simp), rfl, fun _ => rfl⟩
  | append_singleton calls call ih =>
      obtain ⟨late, hsince, hentries, hget⟩ := ih
      rw [history_append, afterSteps_append]
      generalize empty.afterSteps (empty.history calls) = parameters at hentries hget
      have hanswered := answered_answer parameters call
      change ∃ late, Since (empty.history calls ++ [⟨call, parameters.answer call⟩]) late ∧
        (parameters.answer call).parameters.entries = taken late ∧
        ∀ name, (parameters.answer call).parameters.get? name =
          (presented late).find? fun parameter => parameter.name == name
      cases call with
      | insert parameter =>
          refine ⟨_, hsince.insert _ parameter rfl, ?_, fun name => ?_⟩
          · rw [hanswered.entries_eq, hentries, taken_append]
          · rw [hanswered.get?_eq, hget, presented_append, List.find?_append]
            rfl
      | single parameter =>
          exact ⟨_, .single _ [] _ parameter rfl (by simp), rfl, fun _ => rfl⟩

-- However a set was filled, it keeps of each name what was first offered since it was last made to
-- hold one parameter alone, in the order of the offers.
theorem held_by_calls (calls : List ParameterCall) :
    Held calls (empty.history calls) (empty.afterSteps (empty.history calls)) := by
  have hnodup := names_nodup_history empty calls List.nodup_nil
  constructor
  case calls_eq => exact map_call_history empty calls
  case answered => exact answered_of_history empty calls
  case names_nodup => exact hnodup
  case held => exact exists_since calls
  case get?_iff =>
    intro name parameter
    exact Keyed.find?_eq_some_iff Parameter.name _ hnodup name parameter
  case contains_iff => exact Parameters.contains_iff _
  case names_eq => rfl
  case size_eq => rfl

-- A name is taken whatever the types are, and is free again in a set that holds another one alone.
example : (empty.history [.insert ⟨"age", .scalar .integer⟩, .insert ⟨"age", .scalar .text⟩,
    .single ⟨"name", .scalar .text⟩, .insert ⟨"age", .scalar .text⟩]).map Step.insertion =
    [⟨⟨[⟨"age", .scalar .integer⟩]⟩, none⟩,
      ⟨⟨[⟨"age", .scalar .integer⟩]⟩, some ⟨"age", .scalar .text⟩⟩,
      ⟨⟨[⟨"name", .scalar .text⟩]⟩, none⟩,
      ⟨⟨[⟨"name", .scalar .text⟩, ⟨"age", .scalar .text⟩]⟩, none⟩] := by
  decide

end Parameters

end Finder
