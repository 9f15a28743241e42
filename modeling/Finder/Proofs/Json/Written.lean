import Finder.Json.Draft
import Finder.Proofs.Json.Marks

namespace Finder.Json

namespace Tree

mutual

def marks : Tree → List Mark
  | .null => [.null]
  | .integer value => [.integer value]
  | .text value => [.text value]
  | .list items => .openList :: markItems items
  | .object members => .openObject :: markMembers members

-- The marks of the items and of the end of the list.
def markItems : List Tree → List Mark
  | [] => [.closeList]
  | [item] => item.marks ++ [.closeList]
  | item :: rest => item.marks ++ .comma :: markItems rest

def markMembers : List (String × Tree) → List Mark
  | [] => [.closeObject]
  | [(key, value)] => .text key :: .colon :: value.marks ++ [.closeObject]
  | (key, value) :: rest => .text key :: .colon :: value.marks ++ .comma :: markMembers rest

end

mutual

-- What is read where the tree was written.
def draft : Tree → Draft
  | .null => .null
  | .integer value => .number (numeralOf value)
  | .text value => .string (literalOf value)
  | .list items => .list (draftItems items) .closed
  | .object members => .object (draftMembers members) .closed

def draftItems : List Tree → List Draft
  | [] => []
  | item :: rest => item.draft :: draftItems rest

def draftMembers : List (String × Tree) → List (StringLiteral × Draft)
  | [] => []
  | (key, value) :: rest => (literalOf key, value.draft) :: draftMembers rest

end

theorem draftItems_eq_map (items : List Tree) : draftItems items = items.map draft := by
  induction items with
  | nil => rfl
  | cons item rest ih => rw [draftItems, ih, List.map_cons]

theorem draftMembers_eq_map (members : List (String × Tree)) :
    draftMembers members = members.map fun (key, value) => (literalOf key, value.draft) := by
  induction members with
  | nil => rfl
  | cons member rest ih => rw [draftMembers, ih, List.map_cons]

theorem markItems_cons (item next : Tree) (items : List Tree) :
    markItems (item :: next :: items) = item.marks ++ .comma :: markItems (next :: items) := rfl

theorem markMembers_cons (key : String) (value : Tree) (next : String × Tree)
    (members : List (String × Tree)) :
    markMembers ((key, value) :: next :: members) =
      .text key :: .colon :: value.marks ++ .comma :: markMembers (next :: members) := rfl

theorem draftMembers_append (members others : List (String × Tree)) :
    draftMembers (members ++ others) = draftMembers members ++ draftMembers others := by
  simp only [draftMembers_eq_map, List.map_append]

-- A text of the tree, with any blanks between its marks.
def WrittenAs (tree : Tree) (text : String) : Prop :=
  Laid tree.marks text.toList

-- No value begins with the end of a list.
theorem exists_first (tree : Tree) :
    ∃ mark later, tree.marks = mark :: later ∧ mark ≠ .closeList := by
  cases tree <;> exact ⟨_, _, rfl, by simp⟩

theorem exists_first_item (item : Tree) (items : List Tree) :
    ∃ mark later, Tree.markItems (item :: items) = mark :: later ∧ mark ≠ .closeList := by
  obtain ⟨mark, later, hmarks, hne⟩ := item.exists_first
  cases items with
  | nil => exact ⟨mark, later ++ [.closeList], by rw [markItems, hmarks, List.cons_append], hne⟩
  | cons next items =>
      exact ⟨mark, later ++ .comma :: markItems (next :: items),
        by rw [markItems_cons, hmarks, List.cons_append], hne⟩

end Tree

namespace BuildState

theorem run_listOpened (frames : List Frame) (item : Tree) (items : List Tree)
    (rest : List Token) :
    run (.listOpened frames) ((Tree.markItems (item :: items)).map Mark.token ++ rest) =
      run (.due (.list [] :: frames)) ((Tree.markItems (item :: items)).map Mark.token ++ rest) := by
  obtain ⟨mark, later, hmarks, hne⟩ := Tree.exists_first_item item items
  have hstep : step (.listOpened frames) mark.token = step (.due (.list [] :: frames)) mark.token := by
    cases mark <;> first | rfl | exact absurd rfl hne
  rw [hmarks, List.map_cons, List.cons_append, run, run, hstep]

theorem run_listComma (before : List Draft) (frames : List Frame) (item : Tree)
    (items : List Tree) (rest : List Token) :
    run (.listComma before frames) ((Tree.markItems (item :: items)).map Mark.token ++ rest) =
      run (.due (.list before :: frames))
        ((Tree.markItems (item :: items)).map Mark.token ++ rest) := by
  obtain ⟨mark, later, hmarks, hne⟩ := Tree.exists_first_item item items
  have hstep : step (.listComma before frames) mark.token =
      step (.due (.list before :: frames)) mark.token := by
    cases mark <;> first | rfl | exact absurd rfl hne
  rw [hmarks, List.map_cons, List.cons_append, run, run, hstep]

mutual

-- A value that is due and was written is handed on as its draft.
theorem run_marks (tree : Tree) (frames : List Frame) (rest : List Token) :
    run (.due frames) (tree.marks.map Mark.token ++ rest) =
      run (deliver tree.draft frames) rest := by
  match tree with
  | .null | .integer _ | .text _ | .list [] | .object [] => rfl
  | .list (item :: items) =>
      have hopened := run_listOpened frames item items rest
      have hitems := run_markItems (item :: items) (by simp) [] frames rest
      rw [List.append_nil, closeList, List.reverse_reverse] at hitems
      exact hopened.trans hitems
  | .object (member :: members) =>
      have hmembers := run_markMembers (member :: members) (by simp) [] frames rest
      rw [List.append_nil, closeObject, List.reverse_reverse] at hmembers
      rw [Tree.draft, ← hmembers]
      obtain ⟨key, value⟩ := member
      cases members <;> rfl

theorem run_markItems (items : List Tree) (hne : items ≠ []) (before : List Draft)
    (frames : List Frame) (rest : List Token) :
    run (.due (.list before :: frames)) ((Tree.markItems items).map Mark.token ++ rest) =
      run (deliver (closeList ((Tree.draftItems items).reverse ++ before) .closed) frames) rest := by
  match items with
  | [] => exact absurd rfl hne
  | [item] =>
      have hitem := run_marks item (.list before :: frames) (Token.closeList :: rest)
      rw [Tree.markItems, List.map_append, List.append_assoc]
      exact hitem
  | item :: next :: items =>
      have hitem := run_marks item (.list before :: frames)
        (Token.comma :: ((Tree.markItems (next :: items)).map Mark.token ++ rest))
      have hcomma := run_listComma (item.draft :: before) frames next items rest
      have hitems := run_markItems (next :: items) (by simp) (item.draft :: before) frames rest
      rw [Tree.markItems_cons, List.map_append, List.append_assoc, Tree.draftItems,
        List.reverse_cons, List.append_assoc, List.singleton_append, ← hitems, ← hcomma]
      exact hitem

-- The members of an object, before the first of which a key is due.
theorem run_markMembers (members : List (String × Tree)) (hne : members ≠ [])
    (before : List (StringLiteral × Draft)) (frames : List Frame) (rest : List Token) :
    run (.objectComma before frames) ((Tree.markMembers members).map Mark.token ++ rest) =
      run (deliver (closeObject ((Tree.draftMembers members).reverse ++ before) .closed) frames)
        rest := by
  match members with
  | [] => exact absurd rfl hne
  | [(key, value)] =>
      have hvalue := run_marks value (.object before (literalOf key) :: frames)
        (Token.closeObject :: rest)
      simp only [Tree.markMembers, List.map_cons, List.map_append, List.cons_append,
        List.append_assoc]
      exact hvalue
  | (key, value) :: next :: members =>
      have hvalue := run_marks value (.object before (literalOf key) :: frames)
        (Token.comma :: ((Tree.markMembers (next :: members)).map Mark.token ++ rest))
      have hmembers := run_markMembers (next :: members) (by simp)
        ((literalOf key, value.draft) :: before) frames rest
      rw [Tree.markMembers_cons, Tree.draftMembers, List.reverse_cons, List.append_assoc,
        List.singleton_append, ← hmembers]
      simp only [List.map_cons, List.map_append, List.cons_append, List.append_assoc]
      exact hvalue

end

end BuildState

-- However a tree is written, its draft is read, and nothing else.
theorem Document.parse_of_writtenAs (tree : Tree) (text : String) (h : tree.WrittenAs text) :
    Document.parse text = ⟨tree.draft, false⟩ := by
  have hrun := BuildState.run_marks tree [] []
  rw [List.append_nil] at hrun
  rw [Document.parse, lex_laid h, Document.ofTokens, hrun]
  rfl

section

variable {marks : List Mark} {text : List Char}

theorem Laid.sign (mark : Mark) (hmark : ∀ value, mark ≠ .integer value) (h : Laid marks text) :
    Laid (mark :: marks) (mark.chars ++ text) :=
  .mark mark (fun ⟨value, hvalue⟩ => absurd hvalue (hmark value)) h

theorem endsNumber_sign (mark : Mark) (hmark : mark ∈ [.comma, .closeList, .closeObject])
    (later : List Char) : EndsNumber (mark.chars ++ later) := by
  simp only [List.mem_cons, List.not_mem_nil, or_false] at hmark
  rcases hmark with rfl | rfl | rfl <;> exact ⟨by decide, by decide, by decide⟩

theorem Laid.line (depth : Nat) (h : Laid marks text) : Laid marks (Tree.line depth ++ text) := by
  have hspaces (count : Nat) : Laid marks (List.replicate count ' ' ++ text) := by
    induction count with
    | zero => exact h
    | succ count ih => exact .blank ' ' rfl ih
  exact .blank '\n' rfl (hspaces (2 * depth))

theorem endsNumber_line (depth : Nat) (later : List Char) :
    EndsNumber (Tree.line depth ++ later) :=
  ⟨by decide, by decide, by decide⟩

end

namespace Tree

mutual

theorem laid_compact (tree : Tree) (marks : List Mark) (text : List Char) (hend : EndsNumber text)
    (h : Laid marks text) : Laid (tree.marks ++ marks) (tree.compact ++ text) := by
  match tree with
  | .null => exact h.sign .null (by simp)
  | .integer value => exact .mark (.integer value) (fun _ => hend) h
  | .text value => exact h.sign (.text value) (by simp)
  | .list items => exact (laid_compactItems items marks text h).sign .openList (by simp)
  | .object members => exact (laid_compactMembers members marks text h).sign .openObject (by simp)

theorem laid_compactItems (items : List Tree) (marks : List Mark) (text : List Char)
    (h : Laid marks text) : Laid (markItems items ++ marks) (compactItems items ++ text) := by
  have hclose := h.sign .closeList (by simp)
  match items with
  | [] => exact hclose
  | [item] =>
      have hitem := laid_compact item _ _ (endsNumber_sign .closeList (by simp) text) hclose
      simpa [markItems, compactItems, Mark.chars] using hitem
  | item :: next :: items =>
      have hitems := (laid_compactItems (next :: items) marks text h).sign .comma (by simp)
      have hitem := laid_compact item _ _ (endsNumber_sign .comma (by simp) _) hitems
      simpa [markItems_cons, compactItems, Mark.chars] using hitem

theorem laid_compactMembers (members : List (String × Tree)) (marks : List Mark)
    (text : List Char) (h : Laid marks text) :
    Laid (markMembers members ++ marks) (compactMembers members ++ text) := by
  have hclose := h.sign .closeObject (by simp)
  match members with
  | [] => exact hclose
  | [(key, value)] =>
      have hvalue := laid_compact value _ _ (endsNumber_sign .closeObject (by simp) text) hclose
      have hkey := (hvalue.sign .colon (by simp)).sign (.text key) (by simp)
      simpa [markMembers, compactMembers, Mark.chars] using hkey
  | (key, value) :: next :: members =>
      have hmembers := (laid_compactMembers (next :: members) marks text h).sign .comma (by simp)
      have hvalue := laid_compact value _ _ (endsNumber_sign .comma (by simp) _) hmembers
      have hkey := (hvalue.sign .colon (by simp)).sign (.text key) (by simp)
      simpa [markMembers_cons, compactMembers, Mark.chars] using hkey

end

mutual

theorem laid_indented (depth : Nat) (tree : Tree) (marks : List Mark) (text : List Char)
    (hend : EndsNumber text) (h : Laid marks text) :
    Laid (tree.marks ++ marks) (tree.indented depth ++ text) := by
  match tree with
  | .null => exact h.sign .null (by simp)
  | .integer value => exact .mark (.integer value) (fun _ => hend) h
  | .text value => exact h.sign (.text value) (by simp)
  | .list [] => exact (h.sign .closeList (by simp)).sign .openList (by simp)
  | .list (item :: items) =>
      exact (laid_indentedItems depth (item :: items) marks text h).sign .openList (by simp)
  | .object [] => exact (h.sign .closeObject (by simp)).sign .openObject (by simp)
  | .object (member :: members) =>
      exact (laid_indentedMembers depth (member :: members) marks text h).sign .openObject (by simp)

theorem laid_indentedItems (depth : Nat) (items : List Tree) (marks : List Mark)
    (text : List Char) (h : Laid marks text) :
    Laid (markItems items ++ marks) (indentedItems depth items ++ text) := by
  have hclose := (h.sign .closeList (by simp)).line depth
  match items with
  | [] => simpa [markItems, indentedItems, Mark.chars] using hclose
  | [item] =>
      have hitem := (laid_indented (depth + 1) item _ _ (endsNumber_line depth _) hclose).line
        (depth + 1)
      simpa [markItems, indentedItems, Mark.chars] using hitem
  | item :: next :: items =>
      have hitems := (laid_indentedItems depth (next :: items) marks text h).sign .comma (by simp)
      have hitem := (laid_indented (depth + 1) item _ _ (endsNumber_sign .comma (by simp) _)
        hitems).line (depth + 1)
      simpa [markItems_cons, indentedItems, Mark.chars] using hitem

theorem laid_indentedMembers (depth : Nat) (members : List (String × Tree)) (marks : List Mark)
    (text : List Char) (h : Laid marks text) :
    Laid (markMembers members ++ marks) (indentedMembers depth members ++ text) := by
  have hclose := (h.sign .closeObject (by simp)).line depth
  match members with
  | [] => simpa [markMembers, indentedMembers, Mark.chars] using hclose
  | [(key, value)] =>
      have hvalue := laid_indented (depth + 1) value _ _ (endsNumber_line depth _) hclose
      have hcolon := (Laid.blank ' ' rfl hvalue).sign .colon (by simp)
      have hkey := (hcolon.sign (.text key) (by simp)).line (depth + 1)
      simpa [markMembers, indentedMembers, Mark.chars] using hkey
  | (key, value) :: next :: members =>
      have hmembers := (laid_indentedMembers depth (next :: members) marks text h).sign .comma
        (by simp)
      have hvalue := laid_indented (depth + 1) value _ _ (endsNumber_sign .comma (by simp) _)
        hmembers
      have hcolon := (Laid.blank ' ' rfl hvalue).sign .colon (by simp)
      have hkey := (hcolon.sign (.text key) (by simp)).line (depth + 1)
      simpa [markMembers_cons, indentedMembers, Mark.chars] using hkey

end

theorem writtenAs_compactText (tree : Tree) : tree.WrittenAs tree.compactText := by
  have hlaid := laid_compact tree [] [] trivial .done
  rwa [List.append_nil, List.append_nil, ← String.toList_ofList (l := tree.compact)] at hlaid

-- What follows on the last line is blank.
theorem writtenAs_indentedText (tree : Tree) : tree.WrittenAs (tree.indentedText ++ "\n") := by
  have hlaid := laid_indented 0 tree [] ['\n'] ⟨by decide, by decide, by decide⟩
    (.blank '\n' rfl .done)
  rw [List.append_nil] at hlaid
  rw [WrittenAs, String.toList_append, indentedText, String.toList_ofList]
  exact hlaid

end Tree

end Finder.Json
