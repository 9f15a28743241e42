import Finder.FileTree
import Finder.Proofs.Lists

namespace Finder

inductive FileKind where
  | file (content : ByteArray)
  | directory

-- What the names of entries lead to. All names are taken as they are, `.` and `..` among them.
def FileEntries.kind? (entries : FileEntries) : List String → Option FileKind
  | [] => some .directory
  | name :: rest =>
      match entries.lookup name with
      | some (.directory inner) => kind? inner rest
      | some (.file content) => if rest = [] then some (.file content) else none
      | none => none

namespace FileEntries

theorem lookup_put_self (entries : FileEntries) (name : String) (node : FileNode) :
    (put name node entries).lookup name = some node := by
  induction entries with
  | nil => simp [put]
  | cons entry rest ih =>
      obtain ⟨other, old⟩ := entry
      by_cases hname : other = name
      · simp [put, hname]
      · rw [put, if_neg hname, List.lookup_cons, beq_false_of_ne (Ne.symm hname)]
        exact ih

theorem lookup_put_of_ne (entries : FileEntries) {name sought : String} (node : FileNode)
    (h : sought ≠ name) : (put name node entries).lookup sought = entries.lookup sought := by
  induction entries with
  | nil => simp [put, List.lookup_cons, beq_false_of_ne h]
  | cons entry rest ih =>
      obtain ⟨other, old⟩ := entry
      by_cases hname : other = name
      · subst hname
        rw [put, if_pos rfl, List.lookup_cons, List.lookup_cons, beq_false_of_ne h]
      · rw [put, if_neg hname, List.lookup_cons, List.lookup_cons, ih]

theorem kind?_put_self (entries inner : FileEntries) (name : String) (rest : List String) :
    (put name (.directory inner) entries).kind? (name :: rest) = inner.kind? rest := by
  rw [kind?, lookup_put_self]

theorem kind?_put_of_ne (entries : FileEntries) {name other : String} (node : FileNode)
    (h : other ≠ name) (rest : List String) :
    (put name node entries).kind? (other :: rest) = entries.kind? (other :: rest) := by
  rw [kind?, kind?, lookup_put_of_ne entries node h]

theorem kind?_singleton_eq_directory (entries : FileEntries) (name : String) :
    entries.kind? [name] = some .directory ↔
      ∃ inner, entries.lookup name = some (.directory inner) := by
  rw [kind?]
  cases entries.lookup name with
  | none => simp
  | some node => cases node <;> simp [kind?]

theorem kind?_append_of_directory (entries : FileEntries) (before after : List String)
    (h : entries.kind? (before ++ after) = some .directory) :
    entries.kind? before = some .directory := by
  induction before generalizing entries with
  | nil => rfl
  | cons name rest ih =>
      rw [List.cons_append, kind?] at h
      rw [kind?]
      cases hl : entries.lookup name with
      | none => simp [hl] at h
      | some node =>
          cases node with
          | file content =>
              simp only [hl] at h
              split at h <;> cases h
          | directory inner =>
              simp only [hl] at h
              exact ih inner h

end FileEntries

namespace FileTree

def kind? (tree : FileTree) (names : List String) : Option FileKind :=
  tree.entries.kind? names

-- Only directories came to the tree, and nothing that was there is gone or another thing now.
def Grows (tree larger : FileTree) : Prop :=
  ∀ names, larger.kind? names = tree.kind? names ∨
    tree.kind? names = none ∧ larger.kind? names = some .directory

theorem Grows.refl (tree : FileTree) : tree.Grows tree :=
  fun _ => .inl rfl

theorem Grows.trans {first second third : FileTree} (hfirst : first.Grows second)
    (hsecond : second.Grows third) : first.Grows third := by
  intro names
  rcases hsecond names with h | ⟨hnone, hmade⟩
  · rw [h]
    exact hfirst names
  · rcases hfirst names with h' | ⟨_, hmade'⟩
    · exact .inr ⟨h'.symm.trans hnone, hmade⟩
    · rw [hnone] at hmade'
      cases hmade'

theorem Grows.kind?_eq {tree larger : FileTree} (h : tree.Grows larger) {names : List String}
    {kind : FileKind} (hkind : tree.kind? names = some kind) : larger.kind? names = some kind := by
  rcases h names with hsame | ⟨hnone, _⟩
  · rw [hsame, hkind]
  · rw [hnone] at hkind
    cases hkind

end FileTree

namespace FileSpot

-- The spots of a tree: its root, and the directories in those.
inductive Of (tree : FileTree) : FileSpot → Prop
  | root : Of tree tree.root
  | inner (spot : FileSpot) (hspot : Of tree spot) (name : String) (entries : FileEntries)
      (h : spot.entries.lookup name = some (.directory entries)) :
      Of tree ⟨entries, (name, spot.entries) :: spot.trail⟩

-- The names on the way to a spot, from the root on.
def path (spot : FileSpot) : List String :=
  spot.names.reverse

theorem path_inner (spot : FileSpot) (name : String) (entries : FileEntries) :
    path ⟨entries, (name, spot.entries) :: spot.trail⟩ = spot.path ++ [name] := by
  simp [path, names]

theorem names_up (spot : FileSpot) : spot.up.names = spot.names.tail := by
  unfold up names
  split <;> simp_all

variable {tree : FileTree} {spot : FileSpot}

theorem Of.kind?_append (h : Of tree spot) (rest : List String) :
    tree.kind? (spot.path ++ rest) = spot.entries.kind? rest := by
  induction h generalizing rest with
  | root => rfl
  | inner spot hspot name entries hl ih =>
      rw [path_inner, List.append_assoc, ih, List.singleton_append, FileEntries.kind?, hl]

theorem Of.up (h : Of tree spot) : Of tree spot.up := by
  cases h with
  | root => exact .root
  | inner spot hspot name entries hl => exact hspot

theorem Of.enter (h : Of tree spot) {step : String} {next : FileSpot}
    (hnext : spot.enter step = .ok next) : Of tree next := by
  unfold FileSpot.enter at hnext
  split at hnext
  · cases hnext
    exact h
  · split at hnext
    · cases hnext
      exact h.up
    · split at hnext
      · next entries hl =>
        cases hnext
        exact .inner spot h step entries hl
      · cases hnext
      · cases hnext

theorem Of.follow (h : Of tree spot) {steps : List String} {last : FileSpot}
    (hlast : spot.follow steps = .ok last) : Of tree last := by
  induction steps generalizing spot with
  | nil =>
      cases hlast
      exact h
  | cons step rest ih =>
      obtain ⟨next, hnext, hrest⟩ := (except_bind_eq_ok ..).mp hlast
      exact ih (h.enter hnext) hrest

theorem follow_append (spot : FileSpot) (steps more : List String) :
    spot.follow (steps ++ more) = (spot.follow steps).bind fun last => last.follow more := by
  induction steps generalizing spot with
  | nil => rfl
  | cons step rest ih =>
      rw [List.cons_append, FileSpot.follow, FileSpot.follow]
      cases spot.enter step with
      | error error => rfl
      | ok next => exact ih next

-- When the directory of a spot is another one, all other places of the tree are as they were.
theorem Of.kind?_treeWith (h : Of tree spot) (entries : FileEntries) (rest : List String) :
    (treeWith entries spot.trail).kind? (spot.path ++ rest) = entries.kind? rest := by
  induction h generalizing entries rest with
  | root => rfl
  | inner spot hspot name inner hl ih =>
      rw [path_inner, treeWith, List.append_assoc, ih, List.singleton_append,
        FileEntries.kind?_put_self]

theorem Of.kind?_treeWith_elsewhere (h : Of tree spot) (entries : FileEntries)
    (names : List String) (hnames : ¬spot.path <+: names) :
    (treeWith entries spot.trail).kind? names = tree.kind? names := by
  induction h generalizing entries with
  | root => exact absurd List.nil_prefix hnames
  | inner spot hspot name inner hl ih =>
      rw [treeWith]
      by_cases habove : spot.path <+: names
      · obtain ⟨more, rfl⟩ := habove
        rw [hspot.kind?_treeWith, hspot.kind?_append]
        cases more with
        | nil => rfl
        | cons other rest =>
            have hne : other ≠ name := by
              rintro rfl
              exact hnames ⟨rest, by rw [path_inner, List.append_assoc, List.singleton_append]⟩
            exact FileEntries.kind?_put_of_ne _ _ hne rest
      · exact ih _ habove

-- A directory that is made is empty, and is all that is new.
theorem Of.kind?_put (h : Of tree spot) {name : String} (hnone : spot.entries.lookup name = none)
    (names : List String) : (spot.put name (.directory [])).kind? names =
      if names = spot.path ++ [name] then some .directory else tree.kind? names := by
  rw [put]
  by_cases hbelow : spot.path <+: names
  · obtain ⟨more, rfl⟩ := hbelow
    rw [h.kind?_treeWith, h.kind?_append]
    simp only [List.append_cancel_left_eq]
    cases more with
    | nil => rfl
    | cons other rest =>
        by_cases hname : other = name
        · subst hname
          have hunder : spot.entries.kind? (other :: rest) = none := by
            rw [FileEntries.kind?, hnone]
          rw [FileEntries.kind?_put_self, hunder]
          cases rest <;> simp [FileEntries.kind?]
        · rw [FileEntries.kind?_put_of_ne _ _ hname, if_neg (by simp [hname])]
  · rw [h.kind?_treeWith_elsewhere _ _ hbelow, if_neg]
    rintro rfl
    exact hbelow (List.prefix_append _ _)

theorem Of.grows_put (h : Of tree spot) {name : String} (hnone : spot.entries.lookup name = none) :
    tree.Grows (spot.put name (.directory [])) := by
  intro names
  rw [h.kind?_put hnone]
  split
  · next hnames =>
    refine .inr ⟨?_, rfl⟩
    rw [hnames, h.kind?_append, FileEntries.kind?, hnone]
  · exact .inl rfl

-- A step that can be made can be made in a larger tree, and leads to the place of the same names.
theorem Of.enter_of_grows {larger : FileTree} {other next : FileSpot} {step : String}
    (hgrows : tree.Grows larger) (h : Of tree spot) (hother : Of larger other)
    (hnames : other.names = spot.names) (hnext : spot.enter step = .ok next) :
    ∃ reached, other.enter step = .ok reached ∧ reached.names = next.names := by
  unfold FileSpot.enter at hnext ⊢
  by_cases hdot : step = "."
  · rw [if_pos hdot] at hnext ⊢
    cases hnext
    exact ⟨other, rfl, hnames⟩
  rw [if_neg hdot] at hnext ⊢
  by_cases hup : step = ".."
  · rw [if_pos hup] at hnext ⊢
    cases hnext
    exact ⟨other.up, rfl, by rw [names_up, names_up, hnames]⟩
  rw [if_neg hup] at hnext ⊢
  split at hnext
  · next entries hl =>
    cases hnext
    have hkind : tree.kind? (spot.path ++ [step]) = some .directory := by
      rw [h.kind?_append, FileEntries.kind?_singleton_eq_directory]
      exact ⟨entries, hl⟩
    have hthere := hgrows.kind?_eq hkind
    rw [path, ← hnames, ← path, hother.kind?_append,
      FileEntries.kind?_singleton_eq_directory] at hthere
    obtain ⟨inner, hinner⟩ := hthere
    rw [hinner]
    exact ⟨_, rfl, congrArg (step :: ·) hnames⟩
  · cases hnext
  · cases hnext

theorem Of.follow_of_grows {larger : FileTree} {other last : FileSpot} {steps : List String}
    (hgrows : tree.Grows larger) (h : Of tree spot) (hother : Of larger other)
    (hnames : other.names = spot.names) (hlast : spot.follow steps = .ok last) :
    ∃ reached, other.follow steps = .ok reached ∧ reached.names = last.names := by
  induction steps generalizing spot other with
  | nil =>
      cases hlast
      exact ⟨other, rfl, hnames⟩
  | cons step rest ih =>
      obtain ⟨next, hnext, hrest⟩ := (except_bind_eq_ok ..).mp hlast
      obtain ⟨next', hnext', hnames'⟩ := h.enter_of_grows hgrows hother hnames hnext
      obtain ⟨reached, hreached, hsame⟩ := ih (h.enter hnext) (hother.enter hnext') hnames' hrest
      exact ⟨reached, (except_bind_eq_ok ..).mpr ⟨next', hnext', hreached⟩, hsame⟩

-- Steps that are names, and stand neither for the place itself nor for the one above.
def Plain (steps : List String) : Prop :=
  ∀ step ∈ steps, step ≠ "." ∧ step ≠ ".."

theorem path_of_follow {steps : List String} {last : FileSpot} (hplain : Plain steps)
    (h : spot.follow steps = .ok last) : last.path = spot.path ++ steps := by
  induction steps generalizing spot with
  | nil =>
      cases h
      rw [List.append_nil]
  | cons step rest ih =>
      obtain ⟨⟨hdot, hup⟩, hrest⟩ := List.forall_mem_cons.mp hplain
      obtain ⟨next, hnext, hlast⟩ := (except_bind_eq_ok ..).mp h
      rw [FileSpot.enter, if_neg hdot, if_neg hup] at hnext
      split at hnext
      · cases hnext
        rw [ih hrest hlast, path_inner, List.append_assoc, List.singleton_append]
      · cases hnext
      · cases hnext

-- What is in the way when names cannot be followed: a file, or nothing at all.
theorem Of.blocked_of_follow {steps : List String} {error : FileError} (h : Of tree spot)
    (hplain : Plain steps) (herror : spot.follow steps = .error error) :
    ∃ before name, before ++ [name] <+: steps ∧
      (error = .notDirectory ∧
          (∃ content, tree.kind? (spot.path ++ (before ++ [name])) = some (.file content)) ∨
        error = .absence name ∧ tree.kind? (spot.path ++ (before ++ [name])) = none) := by
  induction steps generalizing spot with
  | nil => cases herror
  | cons step rest ih =>
      obtain ⟨⟨hdot, hup⟩, hrest⟩ := List.forall_mem_cons.mp hplain
      rcases (except_bind_eq_error ..).mp herror with hstep | ⟨next, hnext, hlater⟩
      · refine ⟨[], step, List.prefix_append _ _, ?_⟩
        rw [FileSpot.enter, if_neg hdot, if_neg hup] at hstep
        rw [List.nil_append, h.kind?_append, FileEntries.kind?]
        generalize spot.entries.lookup step = found at hstep ⊢
        match found with
        | some (.directory _) => cases hstep
        | some (.file content) =>
            cases hstep
            exact .inl ⟨rfl, content, rfl⟩
        | none =>
            cases hstep
            exact .inr ⟨rfl, rfl⟩
      · obtain ⟨before, name, hbegins, hblocked⟩ := ih (h.enter hnext) hrest hlater
        have hone : Plain [step] := by simp [Plain, hdot, hup]
        have hpath : next.path = spot.path ++ [step] :=
          path_of_follow hone ((except_bind_eq_ok ..).mpr ⟨next, hnext, rfl⟩)
        refine ⟨step :: before, name, List.cons_prefix_cons.mpr ⟨rfl, hbegins⟩, ?_⟩
        rwa [hpath, List.append_assoc, List.singleton_append] at hblocked

theorem Of.exists_follow_iff {steps : List String} (h : Of tree spot) (hplain : Plain steps) :
    (∃ last, spot.follow steps = .ok last) ↔
      tree.kind? (spot.path ++ steps) = some .directory := by
  constructor
  · rintro ⟨last, hlast⟩
    rw [← path_of_follow hplain hlast, ← List.append_nil last.path, (h.follow hlast).kind?_append]
    rfl
  · intro hkind
    cases hfollow : spot.follow steps with
    | ok last => exact ⟨last, rfl⟩
    | error error =>
        obtain ⟨before, name, ⟨after, rfl⟩, hblocked⟩ := h.blocked_of_follow hplain hfollow
        rw [← List.append_assoc] at hkind
        have habove := FileEntries.kind?_append_of_directory _ _ _ hkind
        rcases hblocked with ⟨_, content, hfile⟩ | ⟨_, hnone⟩
        · rw [FileTree.kind?, habove] at hfile
          cases hfile
        · rw [FileTree.kind?, habove] at hnone
          cases hnone

end FileSpot

end Finder
