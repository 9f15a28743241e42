import Finder.FilePath

namespace Finder.FilePath

theorem splitSlashes_append (piece before after : List Char) :
    splitSlashes piece (before ++ '/' :: after) =
      splitSlashes piece before ++ splitSlashes [] after := by
  induction before generalizing piece with
  | nil => rfl
  | cons c rest ih =>
      rw [List.cons_append]
      by_cases hslash : c = '/'
      · subst hslash
        rw [splitSlashes, splitSlashes, ih, List.cons_append]
      · rw [splitSlashes, splitSlashes, ih] <;> exact hslash

theorem splitSlashes_of_not_mem (piece text : List Char) (h : '/' ∉ text) :
    splitSlashes piece text = [String.ofList (piece.reverse ++ text)] := by
  induction text generalizing piece with
  | nil => rw [splitSlashes, List.append_nil]
  | cons c rest ih =>
      rw [List.mem_cons, not_or] at h
      obtain ⟨hc, hrest⟩ := h
      rw [splitSlashes, ih _ hrest, List.reverse_cons, List.append_assoc, List.singleton_append]
      exact Ne.symm hc

-- A slash stands between the names before it and those behind it, and is no part of any.
theorem steps_slash (first second : String) :
    steps ⟨first ++ "/" ++ second⟩ = steps ⟨first⟩ ++ steps ⟨second⟩ := by
  have htext : (first ++ "/" ++ second).toList = first.toList ++ '/' :: second.toList := by
    simp only [String.toList_append, List.append_assoc]
    rfl
  rw [steps, htext, splitSlashes_append, List.filter_append]
  rfl

theorem steps_name (name : String) (h : '/' ∉ name.toList) :
    steps ⟨name⟩ = if name = "" then [] else [name] := by
  rw [steps, splitSlashes_of_not_mem [] _ h, List.reverse_nil, List.nil_append, String.ofList_toList]
  by_cases hname : name = "" <;> simp [hname]

-- The components of a path, by what is written before and behind a slash, and by the names between
-- slashes: those that are not empty and do not stand for the place itself.
theorem components_slash (first second : String) :
    components ⟨first ++ "/" ++ second⟩ = components ⟨first⟩ ++ components ⟨second⟩ := by
  rw [components, steps_slash, List.filter_append]
  rfl

theorem components_name (name : String) (h : '/' ∉ name.toList) :
    components ⟨name⟩ = if name = "" ∨ name = "." then [] else [name] := by
  rw [components, steps_name name h]
  by_cases hname : name = ""
  · simp [hname]
  · by_cases hdot : name = "." <;> simp [hname, hdot]

-- Names that are written with slashes between them are the steps of what is written, and its components
-- unless some of them stand for the place itself.
theorem steps_intercalate (names : List String) (h : ∀ name ∈ names, '/' ∉ name.toList ∧ name ≠ "") :
    steps ⟨"/".intercalate names⟩ = names := by
  induction names with
  | nil => rfl
  | cons name rest ih =>
      rw [List.forall_mem_cons] at h
      obtain ⟨⟨hslash, hempty⟩, hrest⟩ := h
      have hname : steps ⟨name⟩ = [name] := by rw [steps_name name hslash, if_neg hempty]
      cases rest with
      | nil => rw [String.intercalate_singleton, hname]
      | cons next later =>
          rw [String.intercalate_cons_cons, steps_slash, hname, ih hrest, List.singleton_append]

theorem components_eq_steps (path : FilePath) (h : "." ∉ path.steps) :
    path.components = path.steps := by
  refine List.filter_eq_self.mpr fun step hstep => decide_eq_true ?_
  rintro rfl
  exact h hstep

-- Two paths are the same where they have the same components, however these are written.
example : same ⟨"/var/log"⟩ ⟨"//var/./log/"⟩ ∧ ¬same ⟨"/var/log"⟩ ⟨"/var/log/../log"⟩ := by decide

theorem isAbsolute_iff (path : FilePath) : path.isAbsolute ↔ ∃ rest, path.text = "/" ++ rest := by
  rw [isAbsolute, beq_iff_eq]
  constructor
  · intro h
    obtain ⟨rest, hrest⟩ := List.head?_eq_some_iff.mp h
    refine ⟨String.ofList rest, ?_⟩
    simp [← String.toList_inj, hrest]
  · rintro ⟨rest, hrest⟩
    rw [hrest, String.toList_append]
    rfl

end Finder.FilePath
