import Finder.Proofs.Files.Trees

namespace Finder

namespace FileTree

open FileSpot

variable {tree created : FileTree}

theorem isDirectory_iff (steps : List String) :
    tree.isDirectory steps ↔ ∃ spot, tree.root.follow steps.reverse = .ok spot := by
  rw [isDirectory]
  cases tree.root.follow steps.reverse <;> simp [Except.toBool]

-- One directory is made where the ones above it are there and nothing has its name.
theorem createDirectory_eq_ok_iff (last : String) (before : List String) :
    tree.createDirectory (last :: before) = .ok created ↔
      ∃ spot, tree.root.follow before.reverse = .ok spot ∧ last ≠ "." ∧ last ≠ ".." ∧
        spot.entries.lookup last = none ∧ last.utf8ByteSize ≤ FilePath.longestName ∧
        created = spot.put last (.directory []) := by
  rw [createDirectory, except_bind_eq_ok]
  refine exists_congr fun spot => and_congr_right fun _ => ?_
  by_cases hdots : last = "." ∨ last = ".."
  · rw [if_pos hdots]
    constructor
    · intro h
      cases h
    · rintro ⟨hdot, hup, _⟩
      exact absurd hdots (not_or.mpr ⟨hdot, hup⟩)
  · rw [if_neg hdots]
    rw [not_or] at hdots
    cases hl : spot.entries.lookup last with
    | some node => simp
    | none =>
        rw [← Nat.not_lt]
        by_cases hlong : FilePath.longestName < last.utf8ByteSize
        · simp [hlong]
        · simp [hlong, hdots, eq_comm]

theorem grows_createDirectory {steps : List String} (h : tree.createDirectory steps = .ok created) :
    tree.Grows created := by
  cases steps with
  | nil => cases h
  | cons last before =>
      obtain ⟨spot, hspot, _, _, hnone, _, rfl⟩ := (createDirectory_eq_ok_iff last before).mp h
      exact (Of.root.follow hspot).grows_put hnone

-- What is made is there.
theorem isDirectory_createDirectory {steps : List String}
    (h : tree.createDirectory steps = .ok created) : created.isDirectory steps := by
  have hgrows := grows_createDirectory h
  cases steps with
  | nil => cases h
  | cons last before =>
      obtain ⟨spot, hspot, hdot, hup, hnone, _, rfl⟩ := (createDirectory_eq_ok_iff last before).mp h
      have hof := Of.root.follow hspot
      obtain ⟨reached, hreached, hnames⟩ := Of.root.follow_of_grows hgrows Of.root rfl hspot
      have hkind := hof.kind?_put hnone (spot.path ++ [last])
      rw [if_pos rfl, path, ← hnames, ← path, (Of.root.follow hreached).kind?_append,
        FileEntries.kind?_singleton_eq_directory] at hkind
      obtain ⟨inner, hinner⟩ := hkind
      have hlast : reached.enter last = .ok ⟨inner, (last, reached.entries) :: reached.trail⟩ := by
        rw [FileSpot.enter, if_neg hdot, if_neg hup, hinner]
      rw [isDirectory_iff, List.reverse_cons, FileSpot.follow_append, hreached]
      show ∃ spot, reached.follow [last] = .ok spot
      exact ⟨_, (except_bind_eq_ok ..).mpr ⟨_, hlast, rfl⟩⟩

-- Where the directory is there already, none is made.
theorem createDirectory_of_isDirectory {steps : List String} (h : tree.isDirectory steps) :
    tree.createDirectory steps = .error .alreadyThere := by
  cases steps with
  | nil => rfl
  | cons last before =>
      obtain ⟨spot, hspot⟩ := (isDirectory_iff _).mp h
      rw [List.reverse_cons, FileSpot.follow_append] at hspot
      obtain ⟨above, habove, hlast⟩ := (except_bind_eq_ok ..).mp hspot
      obtain ⟨next, hnext, _⟩ := (except_bind_eq_ok ..).mp hlast
      rw [createDirectory, habove]
      show (if last = "." ∨ last = ".." then _ else _) = _
      by_cases hdots : last = "." ∨ last = ".."
      · rw [if_pos hdots]
      · rw [if_neg hdots]
        rw [not_or] at hdots
        rw [FileSpot.enter, if_neg hdots.1, if_neg hdots.2] at hnext
        cases hl : above.entries.lookup last with
        | some node => rfl
        | none =>
            rw [hl] at hnext
            cases hnext

-- Whatever comes of it, directories are all that is made.
theorem grows_createSteps (steps : List String) : tree.Grows (tree.createSteps steps).1 := by
  fun_induction createSteps tree steps with
  | case1 steps created hmade => exact grows_createDirectory hmade
  | case2 steps error herror h hlt filled error' hparent ih =>
      rw [hparent] at ih
      exact ih
  | case3 steps error herror h hlt filled hparent created hmade ih =>
      rw [hparent] at ih
      exact ih.trans (grows_createDirectory hmade)
  | case4 steps error herror h hlt filled hparent error' herror' ih =>
      rw [hparent] at ih
      exact ih
  | case5 steps error herror h => exact .refl tree

-- Where nothing is reported, the directory is there.
theorem isDirectory_createSteps (steps : List String) (h : (tree.createSteps steps).2 = none) :
    (tree.createSteps steps).1.isDirectory steps := by
  fun_induction createSteps tree steps with
  | case1 steps created hmade => exact isDirectory_createDirectory hmade
  | case2 => cases h
  | case3 steps error herror hmissing hlt filled hparent created hmade ih =>
      exact isDirectory_createDirectory hmade
  | case4 =>
      split at h
      · assumption
      · cases h
  | case5 =>
      split at h
      · assumption
      · cases h

theorem createSteps_of_isDirectory {steps : List String} (h : tree.isDirectory steps) :
    tree.createSteps steps = (tree, none) := by
  rw [createSteps, createDirectory_of_isDirectory h]
  simp [h]

-- Nothing stands in the way of a directory: no name on the way to it is that of a file, and where
-- there is nothing yet, the name is one that an entry can have.
def Clear (tree : FileTree) (steps : List String) : Prop :=
  ∀ way name, way ++ [name] <+: steps →
    (∀ content, tree.kind? (way ++ [name]) ≠ some (.file content)) ∧
      (tree.kind? (way ++ [name]) = none → name.utf8ByteSize ≤ FilePath.longestName)

theorem clear_append_iff (steps : List String) (last : String) :
    tree.Clear (steps ++ [last]) ↔ tree.Clear steps ∧
      (∀ content, tree.kind? (steps ++ [last]) ≠ some (.file content)) ∧
        (tree.kind? (steps ++ [last]) = none → last.utf8ByteSize ≤ FilePath.longestName) := by
  constructor
  · intro h
    exact ⟨fun way name hbegins => h way name (hbegins.trans (List.prefix_append _ _)),
      h steps last List.prefix_rfl⟩
  · rintro ⟨hsteps, hlast⟩ way name hbegins
    rcases List.prefix_concat_iff.mp hbegins with hall | hbegins
    · obtain ⟨rfl, hname⟩ := List.append_inj' hall rfl
      obtain rfl := List.singleton_inj.mp hname
      exact hlast
    · exact hsteps way name hbegins

theorem kind?_of_begins {way steps : List String} (hbegins : way <+: steps)
    (h : tree.kind? steps = some .directory) : tree.kind? way = some .directory := by
  obtain ⟨rest, rfl⟩ := hbegins
  exact FileEntries.kind?_append_of_directory tree.entries way rest h

theorem clear_of_directory {steps : List String} (h : tree.kind? steps = some .directory) :
    tree.Clear steps := by
  intro way name hbegins
  rw [kind?_of_begins hbegins h]
  simp

theorem isDirectory_iff_kind? {steps : List String} (hplain : Plain steps.reverse) :
    tree.isDirectory steps ↔ tree.kind? steps.reverse = some .directory := by
  rw [isDirectory_iff]
  exact Of.root.exists_follow_iff hplain

theorem not_there_of_missing {steps : List String} (hplain : Plain steps.reverse)
    (h : tree.createDirectory steps = .error .missing) :
    tree.kind? steps.reverse ≠ some .directory := by
  intro hthere
  rw [createDirectory_of_isDirectory ((isDirectory_iff_kind? hplain).mpr hthere)] at h
  cases h

theorem absence_eq_missing_iff (name : String) :
    FileError.absence name = .missing ↔ name.utf8ByteSize ≤ FilePath.longestName := by
  rw [FileError.absence, ← Nat.not_lt]
  split <;> simp_all

theorem blocked_of_follow {steps : List String} {error : FileError} (hplain : Plain steps)
    (h : tree.root.follow steps = .error error) :
    error = .missing ∧ tree.kind? steps ≠ some .directory ∨ error ≠ .missing ∧ ¬tree.Clear steps := by
  obtain ⟨way, name, hbegins, hblocked⟩ := Of.root.blocked_of_follow hplain h
  rcases hblocked with ⟨rfl, content, hfile⟩ | ⟨rfl, hnone⟩
  · exact .inr ⟨by simp, fun hclear => (hclear way name hbegins).1 content hfile⟩
  · by_cases hshort : name.utf8ByteSize ≤ FilePath.longestName
    · refine .inl ⟨(absence_eq_missing_iff name).mpr hshort, fun hkind => ?_⟩
      have hthere : tree.kind? (way ++ [name]) = none := hnone
      rw [kind?_of_begins hbegins hkind] at hthere
      cases hthere
    · refine .inr ⟨mt (absence_eq_missing_iff name).mp hshort, fun hclear => ?_⟩
      exact hshort ((hclear way name hbegins).2 hnone)

theorem not_clear_of_taken {spot : FileSpot} {last : String} {node : FileNode} (h : Of tree spot)
    (hl : spot.entries.lookup last = some node)
    (hnew : tree.kind? (spot.path ++ [last]) ≠ some .directory) :
    ¬tree.Clear (spot.path ++ [last]) := by
  intro hclear
  cases node with
  | file content =>
      refine ((clear_append_iff _ last).mp hclear).2.1 content ?_
      rw [h.kind?_append]
      simp [FileEntries.kind?, hl]
  | directory inner =>
      refine hnew ?_
      rw [h.kind?_append]
      exact (FileEntries.kind?_singleton_eq_directory _ last).mpr ⟨inner, hl⟩

theorem not_clear_of_long {spot : FileSpot} {last : String} (h : Of tree spot)
    (hl : spot.entries.lookup last = none) (hlong : FilePath.longestName < last.utf8ByteSize) :
    ¬tree.Clear (spot.path ++ [last]) := by
  intro hclear
  have hnone : tree.kind? (spot.path ++ [last]) = none := by
    rw [h.kind?_append, FileEntries.kind?, hl]
  exact absurd hlong (Nat.not_lt.mpr (((clear_append_iff _ last).mp hclear).2.2 hnone))

-- What cannot be made at once is either in want of the directory above it, or cannot be made at all.
theorem blocked_of_createDirectory {last : String} {before : List String} {error : FileError}
    (hplain : Plain (before.reverse ++ [last]))
    (hnew : tree.kind? (before.reverse ++ [last]) ≠ some .directory)
    (h : tree.createDirectory (last :: before) = .error error) :
    error = .missing ∧ tree.kind? before.reverse ≠ some .directory ∨
      error ≠ .missing ∧ ¬tree.Clear (before.reverse ++ [last]) := by
  obtain ⟨hbefore, hlast⟩ := List.forall_mem_append.mp hplain
  rw [createDirectory] at h
  rcases (except_bind_eq_error ..).mp h with hfollow | ⟨spot, hspot, hmake⟩
  · refine (blocked_of_follow hbefore hfollow).imp_right (And.imp_right fun hblocked hclear => ?_)
    exact hblocked ((clear_append_iff _ last).mp hclear).1
  · have hof := Of.root.follow hspot
    have hpath : spot.path = before.reverse := path_of_follow hbefore hspot
    rw [if_neg (not_or.mpr (hlast last List.mem_cons_self))] at hmake
    rw [← hpath] at hnew ⊢
    cases hl : spot.entries.lookup last with
    | some node =>
        rw [hl] at hmake
        cases hmake
        exact .inr ⟨by simp, not_clear_of_taken hof hl hnew⟩
    | none =>
        rw [hl] at hmake
        dsimp only at hmake
        split at hmake
        · next hlong =>
          cases hmake
          exact .inr ⟨by simp, not_clear_of_long hof hl hlong⟩
        · cases hmake

theorem parent_of_plain {last : String} {before : List String}
    (hplain : Plain (before.reverse ++ [last])) : parent (last :: before) = before := by
  obtain ⟨hbefore, hlast⟩ := List.forall_mem_append.mp hplain
  have htrim (steps : List String) (h : ∀ step ∈ steps, step ≠ "." ∧ step ≠ "..") :
      trimDots steps = steps := by
    cases steps with
    | nil => rfl
    | cons step rest => rw [trimDots, if_neg (h step List.mem_cons_self).1]
  have hall : ∀ step ∈ last :: before, step ≠ "." ∧ step ≠ ".." := by
    intro step hstep
    exact hplain step (by simpa [or_comm] using hstep)
  rw [parent, htrim _ hall, List.tail_cons]
  exact htrim before fun step hstep => hall step (List.mem_cons_of_mem _ hstep)

-- What there has to be once a directory was asked for: the directory and those above it where the way
-- to it was clear, all else as it was, and else an error.
structure Makes (tree : FileTree) (steps : List String) (result : FileTree × Option FileError) :
    Prop where
  clear_iff : result.2 = none ↔ tree.Clear steps
  kind?_eq : result.2 = none → ∀ names, result.1.kind? names =
    if names <+: steps then some .directory else tree.kind? names

theorem Makes.of_directory {steps : List String} (h : tree.kind? steps = some .directory) :
    tree.Makes steps (tree, none) where
  clear_iff := iff_of_true rfl (clear_of_directory h)
  kind?_eq := by
    intro _ names
    split
    · next hbegins => exact kind?_of_begins hbegins h
    · rfl

theorem Makes.of_not_clear {steps : List String} (h : ¬tree.Clear steps) (result : FileTree)
    (error : FileError) : tree.Makes steps (result, some error) where
  clear_iff := iff_of_false (by simp) h
  kind?_eq := fun hnone => by cases hnone

theorem not_append_begins (steps : List String) (last : String) : ¬steps ++ [last] <+: steps := by
  intro hbegins
  have hlength := hbegins.length_le
  rw [List.length_append, List.length_singleton] at hlength
  omega

section

-- The directories down to the last one are made, and that one comes next.
variable {filled : FileTree} {last : String} {before : List String}
  (hfilled : tree.Makes before.reverse (filled, none)) (hplain : Plain (before.reverse ++ [last]))
include hfilled hplain

theorem Makes.append (h : filled.createDirectory (last :: before) = .ok created) :
    tree.Makes (before.reverse ++ [last]) (created, none) := by
  obtain ⟨spot, hspot, _, _, hnone, hshort, rfl⟩ := (createDirectory_eq_ok_iff last before).mp h
  have hof := Of.root.follow hspot
  have hpath : spot.path = before.reverse :=
    path_of_follow (List.forall_mem_append.mp hplain).1 hspot
  have hfree : filled.kind? (before.reverse ++ [last]) = none := by
    rw [← hpath, hof.kind?_append, FileEntries.kind?, hnone]
  have hold := hfilled.kind?_eq rfl (before.reverse ++ [last])
  rw [if_neg (not_append_begins _ _), hfree] at hold
  constructor
  case clear_iff =>
    refine iff_of_true rfl ((clear_append_iff _ _).mpr ⟨hfilled.clear_iff.mp rfl, ?_, fun _ => hshort⟩)
    intro content hfile
    rw [← hold] at hfile
    cases hfile
  case kind?_eq =>
    intro _ names
    have hkind := hof.kind?_put hnone names
    rw [hpath, hfilled.kind?_eq rfl] at hkind
    rw [hkind]
    by_cases hall : names = before.reverse ++ [last]
    · simp [hall]
    · simp [hall, List.prefix_concat_iff]

theorem Makes.not_clear {error : FileError}
    (hnew : tree.kind? (before.reverse ++ [last]) ≠ some .directory)
    (h : filled.createDirectory (last :: before) = .error error) :
    filled.kind? (before.reverse ++ [last]) ≠ some .directory ∧
      ¬tree.Clear (before.reverse ++ [last]) := by
  have hsame := hfilled.kind?_eq rfl (before.reverse ++ [last])
  rw [if_neg (not_append_begins _ _)] at hsame
  have habove := hfilled.kind?_eq rfl before.reverse
  rw [if_pos List.prefix_rfl] at habove
  have hnew' : filled.kind? (before.reverse ++ [last]) ≠ some .directory := by rwa [hsame]
  refine ⟨hnew', fun hclear => ?_⟩
  rcases blocked_of_createDirectory hplain hnew' h with ⟨_, hbefore⟩ | ⟨_, hblocked⟩
  · exact hbefore habove
  · obtain ⟨_, hlast⟩ := (clear_append_iff _ _).mp hclear
    rw [← hsame] at hlast
    exact hblocked ((clear_append_iff _ _).mpr ⟨clear_of_directory habove, hlast⟩)

end

-- Induction along the recursion: what cannot be made at once is made when the directory above it is
-- there.
theorem makes_createSteps {steps : List String} (hplain : Plain steps.reverse) :
    tree.Makes steps.reverse (tree.createSteps steps) := by
  fun_induction createSteps tree steps with
  | case1 steps created hmade =>
      cases steps with
      | nil => cases hmade
      | cons last before =>
          rw [List.reverse_cons] at hplain ⊢
          obtain ⟨spot, hspot, _⟩ := (createDirectory_eq_ok_iff last before).mp hmade
          have habove := (Of.root.exists_follow_iff (List.forall_mem_append.mp hplain).1).mp
            ⟨spot, hspot⟩
          exact (Makes.of_directory habove).append hplain hmade
  | case2 steps error herror h hlt filled error' hparent ih =>
      obtain ⟨last, before, rfl⟩ := List.exists_cons_of_ne_nil h.2
      rw [List.reverse_cons] at hplain ⊢
      rw [parent_of_plain hplain] at hparent ih
      rw [hparent] at ih
      have hblocked := (ih (List.forall_mem_append.mp hplain).1).clear_iff
      refine .of_not_clear (fun hclear => ?_) filled error'
      cases hblocked.mpr ((clear_append_iff _ _).mp hclear).1
  | case3 steps error herror h hlt filled hparent created hmade ih =>
      obtain ⟨last, before, rfl⟩ := List.exists_cons_of_ne_nil h.2
      rw [List.reverse_cons] at hplain ⊢
      rw [parent_of_plain hplain] at hparent ih
      rw [hparent] at ih
      exact (ih (List.forall_mem_append.mp hplain).1).append hplain hmade
  | case4 steps error herror h hlt filled hparent error' herror' ih =>
      obtain ⟨last, before, rfl⟩ := List.exists_cons_of_ne_nil h.2
      have hnew := not_there_of_missing hplain (h.1 ▸ herror)
      have hiff : filled.isDirectory _ ↔ _ := isDirectory_iff_kind? hplain
      rw [List.reverse_cons] at hplain hnew hiff ⊢
      rw [parent_of_plain hplain] at hparent ih
      rw [hparent] at ih
      obtain ⟨hnew', hblocked⟩ :=
        (ih (List.forall_mem_append.mp hplain).1).not_clear hplain hnew herror'
      rw [if_neg (mt hiff.mp hnew')]
      exact .of_not_clear hblocked filled error'
  | case5 steps error herror h =>
      have hiff : tree.isDirectory _ ↔ _ := isDirectory_iff_kind? hplain
      by_cases hthere : tree.kind? steps.reverse = some .directory
      · rw [if_pos (hiff.mpr hthere)]
        exact .of_directory hthere
      · rw [if_neg (mt hiff.mp hthere)]
        cases steps with
        | nil => exact absurd rfl hthere
        | cons last before =>
            rw [List.reverse_cons] at hplain hthere ⊢
            rcases blocked_of_createDirectory hplain hthere herror with ⟨hmissing, _⟩ | ⟨_, hblocked⟩
            · exact absurd ⟨hmissing, List.cons_ne_nil _ _⟩ h
            · exact .of_not_clear hblocked tree error

theorem checkPath_eq_ok_iff (path : FilePath) : checkPath path = .ok () ↔
    (∀ c ∈ path.text.toList, c.toNat ≠ 0) ∧ path.text.utf8ByteSize ≤ FilePath.longest := by
  unfold checkPath FilePath.isTooLong
  rw [← Nat.not_lt]
  split
  · next hzero =>
    obtain ⟨c, hc, hcode⟩ := List.any_eq_true.mp hzero
    exact iff_of_false (by simp) fun h => h.1 c hc (of_decide_eq_true hcode)
  · split <;> simp_all

-- Asking for a directory with those above it loses nothing and makes nothing but directories, and where
-- no error comes of it, the path leads to one.
theorem createAll_leads (tree : FileTree) (path : FilePath) :
    tree.Grows (tree.createAll path).1 ∧ ((tree.createAll path).2 = none →
      ∃ spot, (tree.createAll path).1.root.follow path.steps = .ok spot) := by
  unfold createAll
  cases checkPath path with
  | error error => exact ⟨.refl tree, fun h => by cases h⟩
  | ok _ =>
      refine ⟨grows_createSteps _, fun h => ?_⟩
      obtain ⟨spot, hspot⟩ := (isDirectory_iff _).mp (isDirectory_createSteps _ h)
      rw [List.reverse_reverse] at hspot
      exact ⟨spot, hspot⟩

-- Where the path leads to a directory already, the files stay as they are.
theorem createAll_of_leads (path : FilePath) (hpath : checkPath path = .ok ())
    (h : ∃ spot, tree.root.follow path.steps = .ok spot) : tree.createAll path = (tree, none) := by
  have hthere : tree.isDirectory path.steps.reverse := by
    rw [isDirectory_iff, List.reverse_reverse]
    exact h
  rw [createAll, hpath]
  exact createSteps_of_isDirectory hthere

-- A path of plain names is made where the way is clear, and then its directories are all that is new.
theorem createAll_of_plain (path : FilePath) (hplain : Plain path.steps) :
    ((tree.createAll path).2 = none ↔ checkPath path = .ok () ∧ tree.Clear path.steps) ∧
      ((tree.createAll path).2 = none → ∀ names, (tree.createAll path).1.kind? names =
        if names <+: path.steps then some .directory else tree.kind? names) := by
  rw [createAll]
  cases checkPath path with
  | error error => simp
  | ok _ =>
      rw [← List.reverse_reverse path.steps] at hplain
      have hmakes : tree.Makes _ _ := makes_createSteps hplain
      rw [List.reverse_reverse] at hmakes
      exact ⟨hmakes.clear_iff.trans (and_iff_right rfl).symm, hmakes.kind?_eq⟩

end FileTree

end Finder
