import Finder.Proofs.Files.Directories
import Finder.Proofs.Files.Paths
import Finder.Proofs.Lists
import Finder.Proofs.Log.Levels

namespace Finder

-- A call that asks for a log, with the files that it finds.
structure LogCall where
  tree : FileTree
  config : LogConfig

namespace LogCall

-- The call asks for a level, and for a directory that can be the place of a log.
def Valid (call : LogCall) (level : Level) : Prop :=
  level.AskedBy call.config.level ∧ call.config.directory.text ≠ "" ∧
    call.config.directory.isAbsolute

-- The directory is there, or can be made.
def Prepares (call : LogCall) : Prop :=
  (call.tree.createAll call.config.directory).2 = none

-- Where the directory is named plainly, no more is asked than that its text is that of a path and that
-- nothing stands in the way of its components.
theorem prepares_iff (call : LogCall) (hplain : FileSpot.Plain call.config.directory.steps) :
    call.Prepares ↔ FileTree.checkPath call.config.directory = .ok () ∧
      call.tree.Clear call.config.directory.components := by
  have hsteps : call.config.directory.components = call.config.directory.steps :=
    FilePath.components_eq_steps _ fun hm => (hplain "." hm).1 rfl
  rw [hsteps]
  exact (FileTree.createAll_of_plain call.config.directory hplain).1

-- The call sets up a log that is not set up yet.
def Begins (call : LogCall) (level : Level) : Prop :=
  call.Valid level ∧ call.Prepares

end LogCall

theorem Level.AskedBy.unique {first second : Level} {written : String}
    (hfirst : first.AskedBy written) (hsecond : second.AskedBy written) : first = second := by
  rw [← ofText?_eq_some_iff] at hfirst hsecond
  rw [hfirst] at hsecond
  exact Option.some.inj hsecond

theorem LogCall.Valid.unique {call : LogCall} {first second : Level} (hfirst : call.Valid first)
    (hsecond : call.Valid second) : first = second :=
  hfirst.1.unique hsecond.1

-- What is wrong with a call in itself. The level is looked at before the directory.
inductive LogCall.Faulty (call : LogCall) : LogError → Prop
  | unknownLevel (h : ∀ level : Level, ¬level.AskedBy call.config.level) :
      Faulty call (.unknownLevel (Level.normalized call.config.level))
  | noDirectory (level : Level) (hlevel : level.AskedBy call.config.level)
      (h : call.config.directory.text = "") : Faulty call .noDirectory
  | relativeDirectory (level : Level) (hlevel : level.AskedBy call.config.level)
      (hwritten : call.config.directory.text ≠ "") (h : call.config.directory.isAbsolute = false) :
      Faulty call (.relativeDirectory call.config.directory)

-- The answer to a call, by the status that it finds. A log that is set up is compared with the call,
-- the directory first; there nothing is asked of the files.
inductive LogCall.Answered (call : LogCall) : Option (Level × FilePath) → Option LogError → Prop
  | faulty (status : Option (Level × FilePath)) (error : LogError) (h : call.Faulty error) :
      Answered call status (some error)
  | notCreated (level : Level) (error : FileError) (hvalid : call.Valid level)
      (h : (call.tree.createAll call.config.directory).2 = some error) :
      Answered call none (some (.notCreated call.config.directory error.message))
  | begun (level : Level) (h : call.Begins level) : Answered call none none
  | otherDirectory (level active : Level) (directory : FilePath) (hvalid : call.Valid level)
      (h : directory.components ≠ call.config.directory.components) :
      Answered call (some (active, directory))
        (some (.otherDirectory directory call.config.directory))
  | otherLevel (level active : Level) (directory : FilePath) (hvalid : call.Valid level)
      (hsame : directory.components = call.config.directory.components) (h : active ≠ level) :
      Answered call (some (active, directory)) (some (.otherLevel active level))
  | same (level : Level) (directory : FilePath) (hvalid : call.Valid level)
      (h : directory.components = call.config.directory.components) :
      Answered call (some (level, directory)) none

-- What happens to the log of a process.
inductive LogStep where
  | setUp (call : LogCall)
  | report (duration : String) (event : Event)

def LogStep.calls : List LogStep → List LogCall
  | [] => []
  | .setUp call :: rest => call :: calls rest
  | .report _ _ :: rest => calls rest

namespace LogSession

def after (session : LogSession) : List LogStep → LogSession
  | [] => session
  | .setUp call :: rest => (session.start call.tree call.config).1.after rest
  | .report duration event :: rest => (session.record duration event).after rest

def answer (session : LogSession) (call : LogCall) : Option LogError :=
  (session.start call.tree call.config).2.2

end LogSession

-- The log after some steps of a new process, and the next call. All that is said of the next call
-- holds of each call of a process, with the steps before it.
structure ConfiguredOnce (steps : List LogStep) (session : LogSession) : Prop where
  status_eq_none_iff : session.status = none ↔
    ∀ call ∈ LogStep.calls steps, ∀ level, ¬call.Begins level
  status_eq_some_iff : ∀ level directory, session.status = some (level, directory) ↔
    ∃ call, IsFirst (fun call => ∃ level, call.Begins level) (LogStep.calls steps) call ∧
      call.Begins level ∧ call.config.directory = directory
  kept : ∀ later active, session.status = some active → (session.after later).status = some active
  answered : ∀ call : LogCall, call.Answered session.status (session.answer call)
  accepted_iff : ∀ call, session.answer call = none ↔
    session.status = none ∧ (∃ level, call.Begins level) ∨
    ∃ level directory, session.status = some (level, directory) ∧ call.Valid level ∧
      directory.components = call.config.directory.components
  refused : ∀ call, session.answer call ≠ none →
    (session.start call.tree call.config).1 = session
  -- However many calls have failed, one that could have been the first still sets the log up.
  begins : ∀ call level, session.status = none → call.Begins level →
    session.answer call = none ∧
      (session.start call.tree call.config).1.status = some (level, call.config.directory)
  untouched : ∀ call, session.status ≠ none →
    (session.start call.tree call.config).2.1 = call.tree ∧
      ∀ tree, session.answer ⟨tree, call.config⟩ = session.answer call

namespace LogCall

variable {call : LogCall} {level : Level}

theorem checked_eq_ok_iff (call : LogCall) (level : Level) :
    call.config.checked = .ok level ↔ call.Valid level := by
  simp only [Valid, ← Level.ofText?_eq_some_iff]
  unfold LogConfig.checked
  cases Level.ofText? call.config.level with
  | none => simp
  | some asked =>
      by_cases hwritten : call.config.directory.text = ""
      · simp [hwritten]
      · by_cases habsolute : call.config.directory.isAbsolute
        · simp [hwritten, habsolute]
        · simp [hwritten, habsolute]

theorem Faulty.not_valid {error : LogError} (h : call.Faulty error) (level : Level) :
    ¬call.Valid level := by
  rintro ⟨hlevel, hwritten, habsolute⟩
  cases h with
  | unknownLevel h => exact h level hlevel
  | noDirectory other hother h => exact hwritten h
  | relativeDirectory other hother hother' h =>
      rw [h] at habsolute
      cases habsolute

theorem faulty_of_checked (error : LogError) (h : call.config.checked = .error error) :
    call.Faulty error := by
  unfold LogConfig.checked at h
  split at h
  next hnone =>
    cases h
    refine .unknownLevel fun level hlevel => ?_
    rw [← Level.ofText?_eq_some_iff, hnone] at hlevel
    cases hlevel
  next level hlevel =>
    have hasked := (Level.ofText?_eq_some_iff _ _).mp hlevel
    split at h
    next hwritten =>
      cases h
      exact .noDirectory level hasked hwritten
    next hwritten =>
      split at h
      next => cases h
      next habsolute =>
        cases h
        exact .relativeDirectory level hasked hwritten (Bool.not_eq_true _ ▸ habsolute)

-- Accepted is a call that begins the log, or one that asks for the log that there is.
theorem Answered.eq_none_iff {status : Option (Level × FilePath)} {answer : Option LogError}
    (h : call.Answered status answer) :
    answer = none ↔ status = none ∧ (∃ level, call.Begins level) ∨
      ∃ level directory, status = some (level, directory) ∧ call.Valid level ∧
        directory.components = call.config.directory.components := by
  constructor
  · rintro rfl
    cases h with
    | begun level h => exact .inl ⟨rfl, level, h⟩
    | same level directory hvalid h => exact .inr ⟨level, directory, rfl, hvalid, h⟩
  · intro haccepted
    cases h with
    | begun level h => rfl
    | same level directory hvalid h => rfl
    | faulty status error h =>
        rcases haccepted with ⟨_, level, hbegins⟩ | ⟨level, _, _, hvalid, _⟩
        · exact absurd hbegins.1 (h.not_valid level)
        · exact absurd hvalid (h.not_valid level)
    | notCreated level error hvalid h =>
        rcases haccepted with ⟨_, _, _, hprepares⟩ | ⟨_, _, hstatus, _⟩
        · rw [Prepares, h] at hprepares
          cases hprepares
        · cases hstatus
    | otherDirectory level active directory hvalid h =>
        rcases haccepted with ⟨hstatus, _⟩ | ⟨_, _, hstatus, _, hsame⟩
        · cases hstatus
        · cases hstatus
          exact absurd hsame h
    | otherLevel level active directory hvalid hsame h =>
        rcases haccepted with ⟨hstatus, _⟩ | ⟨_, _, hstatus, hother, _⟩
        · cases hstatus
        · cases hstatus
          exact absurd (hother.unique hvalid) h

end LogCall

namespace LogSession

-- What a call does to a log and to the files, and its answer.
inductive Starts (session : LogSession) (call : LogCall) :
    LogSession × FileTree × Option LogError → Prop
  | faulty (error : LogError) (h : call.Faulty error) :
      Starts session call (session, call.tree, some error)
  | compared (level : Level) (active : ActiveLog) (hvalid : call.Valid level)
      (hactive : session.active = some active) :
      Starts session call (session, call.tree, active.checkSame level call.config.directory)
  | notCreated (level : Level) (error : FileError) (tree : FileTree) (hvalid : call.Valid level)
      (hnone : session.active = none)
      (h : (call.tree.createAll call.config.directory).2 = some error) :
      Starts session call (session, tree, some (.notCreated call.config.directory error.message))
  | begun (level : Level) (begun : LogSession) (tree : FileTree) (hnone : session.active = none)
      (h : call.Begins level) (hbegun : begun.status = some (level, call.config.directory)) :
      Starts session call (begun, tree, none)

theorem status_record (session : LogSession) (duration : String) (event : Event) :
    (session.record duration event).status = session.status := by
  obtain ⟨_ | active⟩ := session
  · rfl
  · show some _ = some _
    dsimp only
    split <;> rfl

theorem starts_start (session : LogSession) (call : LogCall) :
    Starts session call (session.start call.tree call.config) := by
  unfold start
  cases hchecked : call.config.checked with
  | error error => exact .faulty error (LogCall.faulty_of_checked error hchecked)
  | ok level =>
      have hvalid := (call.checked_eq_ok_iff level).mp hchecked
      cases hactive : session.active with
      | some active => exact .compared level active hvalid hactive
      | none =>
          dsimp only
          split
          next changed error hcreated =>
            exact .notCreated level error changed hvalid hactive (congrArg Prod.snd hcreated)
          next changed hcreated =>
            refine .begun level _ changed hactive ⟨hvalid, congrArg Prod.snd hcreated⟩ ?_
            rw [status_record]
            rfl

-- Once the log is set up, a call looks at what it asks for and at nothing else.
theorem start_of_active (session : LogSession) (active : ActiveLog)
    (hactive : session.active = some active) (tree : FileTree) (config : LogConfig) :
    session.start tree config = (session, tree,
      match config.checked with
      | .error error => some error
      | .ok level => active.checkSame level config.directory) := by
  unfold start
  cases config.checked with
  | error error => rfl
  | ok level =>
      dsimp only
      rw [hactive]

theorem active_eq_none_iff (session : LogSession) :
    session.active = none ↔ session.status = none := by
  rw [status, Option.map_eq_none_iff]

theorem status_eq_of_active {session : LogSession} {active : ActiveLog}
    (h : session.active = some active) : session.status = some (active.level, active.directory) := by
  rw [status, h, Option.map_some]

namespace Starts

variable {session : LogSession} {call : LogCall} {started : LogSession × FileTree × Option LogError}

theorem answered (h : Starts session call started) :
    call.Answered session.status started.2.2 := by
  cases h with
  | faulty error h => exact .faulty _ error h
  | notCreated level error tree hvalid hnone h =>
      rw [(active_eq_none_iff session).mp hnone]
      exact .notCreated level error hvalid h
  | begun level begun tree hnone h hbegun =>
      rw [(active_eq_none_iff session).mp hnone]
      exact .begun level h
  | compared level active hvalid hactive =>
      rw [status_eq_of_active hactive]
      show call.Answered _ (active.checkSame level call.config.directory)
      unfold ActiveLog.checkSame
      by_cases hsame : active.directory.components = call.config.directory.components
      · have hcompared : active.directory.same call.config.directory := beq_iff_eq.mpr hsame
        by_cases hlevel : active.level = level
        · simpa [hcompared, hlevel] using .same level active.directory hvalid hsame
        · simpa [hcompared, hlevel] using .otherLevel level _ _ hvalid hsame hlevel
      · have hcompared : active.directory.same call.config.directory = false :=
          beq_eq_false_iff_ne.mpr hsame
        simpa [hcompared] using .otherDirectory level _ _ hvalid hsame

-- The log is left as it is, or it is begun.
theorem status_cases (h : Starts session call started) :
    started.1 = session ∧ (session.status = none → ∀ level, ¬call.Begins level) ∨
    ∃ level, session.status = none ∧ call.Begins level ∧
      started.1.status = some (level, call.config.directory) := by
  cases h with
  | faulty error h => exact .inl ⟨rfl, fun _ level hbegins => h.not_valid level hbegins.1⟩
  | compared level active hvalid hactive =>
      refine .inl ⟨rfl, fun hnone => ?_⟩
      rw [status_eq_of_active hactive] at hnone
      cases hnone
  | notCreated level error tree hvalid hnone h =>
      refine .inl ⟨rfl, fun _ other hbegins => ?_⟩
      have hprepared : (call.tree.createAll call.config.directory).2 = none := hbegins.2
      rw [h] at hprepared
      cases hprepared
  | begun level begun tree hnone h hbegun =>
      exact .inr ⟨level, (active_eq_none_iff session).mp hnone, h, hbegun⟩

theorem status_eq_none_iff (h : Starts session call started) :
    started.1.status = none ↔ session.status = none ∧ ∀ level, ¬call.Begins level := by
  rcases h.status_cases with ⟨hsame, hnever⟩ | ⟨level, hnone, hbegins, hstatus⟩
  · rw [hsame]
    exact ⟨fun hnone => ⟨hnone, hnever hnone⟩, And.left⟩
  · rw [hstatus]
    constructor
    · intro h
      cases h
    · rintro ⟨_, hnever⟩
      exact absurd hbegins (hnever level)

theorem status_eq_some_iff (h : Starts session call started) (level : Level)
    (directory : FilePath) :
    started.1.status = some (level, directory) ↔
      session.status = some (level, directory) ∨
      session.status = none ∧ call.Begins level ∧ call.config.directory = directory := by
  rcases h.status_cases with ⟨hsame, hnever⟩ | ⟨first, hnone, hbegins, hstatus⟩
  · rw [hsame]
    constructor
    · exact .inl
    · rintro (hstatus | ⟨hnone, hbegins, _⟩)
      · exact hstatus
      · exact absurd hbegins (hnever hnone level)
  · rw [hstatus, hnone, Option.some.injEq, Prod.mk.injEq]
    constructor
    · rintro ⟨rfl, rfl⟩
      exact .inr ⟨rfl, hbegins, rfl⟩
    · rintro (hstatus | ⟨_, hother, hdirectory⟩)
      · cases hstatus
      · exact ⟨hbegins.1.unique hother.1, hdirectory⟩

theorem session_eq (h : Starts session call started) (hrefused : started.2.2 ≠ none) :
    started.1 = session := by
  cases h with
  | begun level begun tree hnone h hbegun => exact absurd rfl hrefused
  | _ => rfl

end Starts

variable {session : LogSession}

-- A log that is set up stays as it is, whatever happens.
theorem status_after_of_active (steps : List LogStep) (active : Level × FilePath)
    (h : session.status = some active) : (session.after steps).status = some active := by
  induction steps generalizing session with
  | nil => exact h
  | cons step rest ih =>
      cases step with
      | report duration event =>
          rw [after]
          exact ih ((status_record session duration event).trans h)
      | setUp call =>
          have hstarts := starts_start session call
          rw [after]
          exact ih ((hstarts.status_eq_some_iff active.1 active.2).mpr (.inl h))

theorem status_after_eq_none_iff (session : LogSession) (steps : List LogStep) :
    (session.after steps).status = none ↔ session.status = none ∧
      ∀ call ∈ LogStep.calls steps, ∀ level, ¬call.Begins level := by
  induction steps generalizing session with
  | nil => simp [after, LogStep.calls]
  | cons step rest ih =>
      cases step with
      | report duration event =>
          rw [after, ih, status_record, LogStep.calls]
      | setUp call =>
          rw [after, ih, (starts_start session call).status_eq_none_iff, and_assoc, LogStep.calls,
            List.forall_mem_cons]

-- The first call that can set the log up decides what it is.
theorem status_after_eq_some_iff (steps : List LogStep) (hfresh : session.status = none)
    (level : Level) (directory : FilePath) :
    (session.after steps).status = some (level, directory) ↔
      ∃ call, IsFirst (fun call => ∃ level, call.Begins level) (LogStep.calls steps) call ∧
        call.Begins level ∧ call.config.directory = directory := by
  induction steps generalizing session with
  | nil => simp [after, hfresh, LogStep.calls, not_isFirst_nil]
  | cons step rest ih =>
      cases step with
      | report duration event =>
          rw [after, LogStep.calls]
          exact ih ((status_record session duration event).trans hfresh)
      | setUp call =>
          rw [after]
          simp only [LogStep.calls, isFirst_cons]
          rcases (starts_start session call).status_cases with
            ⟨hsame, hnever⟩ | ⟨first, _, hbegins, hstatus⟩
          · rw [hsame, ih hfresh]
            simp [hnever hfresh]
          · have hcalled : ∃ level, call.Begins level := ⟨first, hbegins⟩
            rw [status_after_of_active rest _ hstatus, Option.some.injEq, Prod.mk.injEq]
            constructor
            · rintro ⟨rfl, hdirectory⟩
              exact ⟨call, .inl ⟨hcalled, rfl⟩, hbegins, hdirectory⟩
            · rintro ⟨other, ⟨_, rfl⟩ | ⟨hnot, _⟩, hother, hdirectory⟩
              · exact ⟨hbegins.1.unique hother.1, hdirectory⟩
              · exact absurd hcalled hnot

end LogSession

-- A log is told by the first call that could set it up, and it answers every call by what it is.
theorem configuredOnce (steps : List LogStep) :
    ConfiguredOnce steps (LogSession.fresh.after steps) := by
  have hfresh : LogSession.fresh.status = none := rfl
  constructor
  case status_eq_none_iff =>
    rw [LogSession.status_after_eq_none_iff]
    exact and_iff_right hfresh
  case status_eq_some_iff => exact LogSession.status_after_eq_some_iff steps hfresh
  case kept => exact LogSession.status_after_of_active
  case answered =>
    intro call
    exact (LogSession.starts_start _ call).answered
  case accepted_iff =>
    intro call
    exact (LogSession.starts_start _ call).answered.eq_none_iff
  case refused =>
    intro call hrefused
    exact (LogSession.starts_start _ call).session_eq hrefused
  case begins =>
    intro call level hnone hbegins
    have hstarts := LogSession.starts_start (LogSession.fresh.after steps) call
    constructor
    · exact hstarts.answered.eq_none_iff.mpr (.inl ⟨hnone, level, hbegins⟩)
    · exact (hstarts.status_eq_some_iff _ _).mpr (.inr ⟨hnone, hbegins, rfl⟩)
  case untouched =>
    intro call hactive
    rw [ne_eq, ← LogSession.active_eq_none_iff] at hactive
    obtain ⟨active, hactive⟩ := Option.ne_none_iff_exists'.mp hactive
    have hstart := LogSession.start_of_active _ active hactive
    constructor
    · rw [hstart]
    · intro tree
      rw [LogSession.answer, LogSession.answer, hstart, hstart]

end Finder
