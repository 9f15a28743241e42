import Mathlib.Data.List.Chain
import Finder.Schema.Entity

namespace Finder

namespace Text

-- What holds of the first 128 code points, which can be tried one by one, holds of ASCII characters.
theorem forall_ascii {p : Char → Prop} (h : ∀ code < 128, p (Char.ofNat code)) (c : Char)
    (hc : c.toNat < 128) : p c := by
  have hcode := h c.toNat hc
  rwa [Char.ofNat_toNat] at hcode

theorem class_ascii (c : Char) (hc : c.toNat < 128) :
    (GraphemeClass.of c = .carriageReturn ↔ c = '\r') ∧ (GraphemeClass.of c = .lineFeed ↔ c = '\n') ∧
      GraphemeClass.of c ∈ [.carriageReturn, .lineFeed, .control, .other] :=
  forall_ascii (p := fun c => (GraphemeClass.of c = .carriageReturn ↔ c = '\r') ∧
    (GraphemeClass.of c = .lineFeed ↔ c = '\n') ∧
      GraphemeClass.of c ∈ [.carriageReturn, .lineFeed, .control, .other]) (by decide +kernel) c hc

theorem shape_separator_iff (c : Char) (hc : c.toNat < 128) :
    Shape.of [c] = .separator ↔ c = '_' ∨ c = '-' ∨ c = ' ' :=
  forall_ascii (p := fun c => Shape.of [c] = .separator ↔ c = '_' ∨ c = '-' ∨ c = ' ')
    (by decide +kernel) c hc

theorem shape_upper_iff (c : Char) (hc : c.toNat < 128) : Shape.of [c] = .upper ↔ c.isUpper :=
  forall_ascii (p := fun c => Shape.of [c] = .upper ↔ c.isUpper) (by decide +kernel) c hc

theorem shape_toLower (c : Char) (hc : c.toNat < 128) :
    Shape.of [c.toLower] = if Shape.of [c] = .upper then .lower else Shape.of [c] :=
  forall_ascii (p := fun c => Shape.of [c.toLower] =
    if Shape.of [c] = .upper then .lower else Shape.of [c]) (by decide +kernel) c hc

theorem toLower_ascii (c : Char) (hc : c.toNat < 128) :
    c.toLower.toNat < 128 ∧ ¬c.toLower.isUpper ∧ lowerChar c = [c.toLower] ∧ c ≠ 'Σ' :=
  forall_ascii (p := fun c => c.toLower.toNat < 128 ∧ ¬c.toLower.isUpper ∧
    lowerChar c = [c.toLower] ∧ c ≠ 'Σ') (by decide +kernel) c hc

theorem toLower_of_not_isUpper (c : Char) (hc : c.toNat < 128) (h : ¬c.isUpper) : c.toLower = c :=
  forall_ascii (p := fun c => ¬c.isUpper → c.toLower = c) (by decide +kernel) c hc h

-- Of ASCII characters, only those of a line end are joined.
theorem joins_start (first next : GraphemeClass)
    (hfirst : first ∈ [GraphemeClass.carriageReturn, .lineFeed, .control, .other])
    (hnext : next ∈ [GraphemeClass.carriageReturn, .lineFeed, .control, .other]) :
    (GraphemeEnd.start first).joins next = (first == .carriageReturn && next == .lineFeed) := by
  simp only [List.mem_cons, List.not_mem_nil, or_false] at hfirst hnext
  rcases hfirst with rfl | rfl | rfl | rfl <;> rcases hnext with rfl | rfl | rfl | rfl <;> rfl

theorem graphemesFrom_of_not_joins (kind : GraphemeClass) (piece rest : List Char)
    (h : ∀ c ∈ rest.head?, (GraphemeEnd.start kind).joins (GraphemeClass.of c) = false) :
    graphemesFrom (.start kind) piece rest = piece.reverse :: graphemes rest := by
  cases rest with
  | nil => rfl
  | cons c rest =>
      rw [graphemesFrom, h c rfl]
      rfl

theorem graphemes_lineEnd (rest : List Char) :
    graphemes ('\r' :: '\n' :: rest) = ['\r', '\n'] :: graphemes rest := by
  have hreturn : GraphemeClass.of '\r' = .carriageReturn := (class_ascii _ (by decide)).1.mpr rfl
  have hfeed : GraphemeClass.of '\n' = .lineFeed := (class_ascii _ (by decide)).2.1.mpr rfl
  rw [graphemes, graphemesFrom, hreturn, hfeed]
  refine graphemesFrom_of_not_joins .lineFeed ['\n', '\r'] rest fun c _ => ?_
  cases GraphemeClass.of c <;> rfl

theorem graphemes_cons (c : Char) (rest : List Char) (hc : c.toNat < 128)
    (hrest : ∀ next ∈ rest.head?, next.toNat < 128)
    (h : ¬(c = '\r' ∧ rest.head? = some '\n')) : graphemes (c :: rest) = [c] :: graphemes rest := by
  obtain ⟨hreturn, _, hclass⟩ := class_ascii c hc
  refine graphemesFrom_of_not_joins _ [c] rest fun next hnext => ?_
  obtain ⟨_, hfeed, hclass'⟩ := class_ascii next (hrest next hnext)
  rw [joins_start _ _ hclass hclass', Bool.and_eq_false_iff, beq_eq_false_iff_ne,
    beq_eq_false_iff_ne, Ne, Ne, hreturn, hfeed, ← not_and_or]
  rintro ⟨rfl, rfl⟩
  exact h ⟨rfl, hnext⟩

-- A name with an underscore at each end of a word, and in place of each separator.
def underscored : List Char → List Char
  | [] => []
  | c :: rest =>
      if Shape.of [c] = .separator then '_' :: underscored rest
      else if wordEndsAt [c] (rest.map fun next => [next]) then c :: '_' :: underscored rest
      else c :: underscored rest

theorem splitWords_ne_nil (pieces : List (List Char)) : splitWords pieces ≠ [] := by
  cases pieces with
  | nil => simp [splitWords]
  | cons piece rest =>
      rw [splitWords]
      split
      · simp
      · split
        · simp
        · split <;> simp

theorem intercalate_splitWords_cons (piece : List Char) (rest : List (List Char)) :
    ['_'].intercalate (splitWords (piece :: rest)) =
      if Shape.of piece = .separator then '_' :: ['_'].intercalate (splitWords rest)
      else if wordEndsAt piece rest then piece ++ '_' :: ['_'].intercalate (splitWords rest)
      else piece ++ ['_'].intercalate (splitWords rest) := by
  have hne := splitWords_ne_nil rest
  rw [splitWords]
  split
  · rw [List.intercalate_cons_of_ne_nil hne]
    rfl
  · split
    · rw [List.intercalate_cons_of_ne_nil hne, List.append_assoc]
      rfl
    · cases hwords : splitWords rest with
      | nil => exact absurd hwords hne
      | cons word words =>
          cases words with
          | nil => simp
          | cons next words =>
              simp only [List.intercalate_cons_cons, List.append_assoc]

-- A line end counts as one piece, but neither of its characters has a part in any rule.
theorem shape_lineEnd : Shape.of ['\r', '\n'] = .other ∧ Shape.of ['\r'] = .other ∧
    Shape.of ['\n'] = .other := by
  decide +kernel

theorem wordEndsAt_of_other (piece : List Char) (rest : List (List Char))
    (h : Shape.of piece = .other) : wordEndsAt piece rest = false := by
  cases rest with
  | nil => rfl
  | cons next later => rw [wordEndsAt, h]

theorem wordEndsAt_before_other (piece next : List Char) (later : List (List Char))
    (h : Shape.of next = .other) : wordEndsAt piece (next :: later) = false := by
  rw [wordEndsAt, h]
  cases Shape.of piece <;> rfl

theorem any_head?_graphemes (chars : List Char) (h : ∀ c ∈ chars, c.toNat < 128)
    (p : Shape → Bool) : ((graphemes chars).head?.any fun piece => p (Shape.of piece)) =
      (chars.map fun c => [c]).head?.any fun piece => p (Shape.of piece) := by
  cases chars with
  | nil => rfl
  | cons c rest =>
      rw [List.forall_mem_cons] at h
      by_cases hend : c = '\r' ∧ rest.head? = some '\n'
      · obtain ⟨rfl, hfeed⟩ := hend
        obtain ⟨rest, rfl⟩ := List.head?_eq_some_iff.mp hfeed
        rw [graphemes_lineEnd, List.map_cons, List.head?_cons, List.head?_cons, Option.any_some,
          Option.any_some, shape_lineEnd.1, shape_lineEnd.2.1]
      · rw [graphemes_cons c rest h.1 (fun next hnext => h.2 next (List.mem_of_head? hnext)) hend]
        rfl

theorem wordEndsAt_graphemes (piece chars : List Char) (h : ∀ c ∈ chars, c.toNat < 128) :
    wordEndsAt piece (graphemes chars) = wordEndsAt piece (chars.map fun c => [c]) := by
  cases chars with
  | nil => rfl
  | cons next later =>
      rw [List.forall_mem_cons] at h
      obtain ⟨hnext, hlater⟩ := h
      by_cases hend : next = '\r' ∧ later.head? = some '\n'
      · obtain ⟨rfl, hfeed⟩ := hend
        obtain ⟨later, rfl⟩ := List.head?_eq_some_iff.mp hfeed
        rw [graphemes_lineEnd, wordEndsAt_before_other _ _ _ shape_lineEnd.1, List.map_cons,
          wordEndsAt_before_other _ _ _ shape_lineEnd.2.1]
      · have hhead : ∀ third ∈ later.head?, third.toNat < 128 := fun third hthird =>
          hlater third (List.mem_of_head? hthird)
        rw [graphemes_cons next later hnext hhead hend, List.map_cons, wordEndsAt, wordEndsAt,
          any_head?_graphemes later hlater fun shape => shape == .lower]

theorem intercalate_splitWords_graphemes (chars : List Char) (h : ∀ c ∈ chars, c.toNat < 128) :
    ['_'].intercalate (splitWords (graphemes chars)) = underscored chars := by
  induction chars with
  | nil => rfl
  | cons c rest ih =>
      rw [List.forall_mem_cons] at h
      obtain ⟨hc, hrest⟩ := h
      have hhead : ∀ next ∈ rest.head?, next.toNat < 128 := fun next hnext =>
        hrest next (List.mem_of_head? hnext)
      by_cases hend : c = '\r' ∧ rest.head? = some '\n'
      · obtain ⟨rfl, hfeed⟩ := hend
        obtain ⟨rest, rfl⟩ := List.head?_eq_some_iff.mp hfeed
        obtain ⟨hboth, hreturn, hline⟩ := shape_lineEnd
        have hfeed : graphemes ('\n' :: rest) = ['\n'] :: graphemes rest :=
          graphemes_cons '\n' rest (by decide)
            (fun next hnext => hrest next (List.mem_cons_of_mem _ (List.mem_of_head? hnext)))
            (by simp)
        rw [underscored, ← ih hrest, hfeed, graphemes_lineEnd, intercalate_splitWords_cons,
          intercalate_splitWords_cons, hboth, hreturn, hline]
        simp [wordEndsAt_of_other, hboth, hreturn, hline]
      · rw [graphemes_cons c rest hc hhead hend, intercalate_splitWords_cons,
          wordEndsAt_graphemes [c] rest hrest, ih hrest]
        rfl

theorem mem_underscored (chars : List Char) (c : Char) (h : c ∈ underscored chars) :
    c = '_' ∨ c ∈ chars ∧ Shape.of [c] ≠ .separator := by
  induction chars with
  | nil => cases h
  | cons first rest ih =>
      have hlater (hm : c ∈ underscored rest) :
          c = '_' ∨ c ∈ first :: rest ∧ Shape.of [c] ≠ .separator :=
        (ih hm).imp_right (And.imp_left (List.mem_cons_of_mem _))
      rw [underscored] at h
      split at h
      · rcases List.mem_cons.mp h with hc | h
        · exact .inl hc
        · exact hlater h
      · next hshape =>
        have hhere (he : c = first) : c = '_' ∨ c ∈ first :: rest ∧ Shape.of [c] ≠ .separator :=
          .inr ⟨he ▸ List.mem_cons_self, he ▸ hshape⟩
        split at h
        · rw [List.mem_cons, List.mem_cons] at h
          rcases h with he | hc | h
          · exact hhere he
          · exact .inl hc
          · exact hlater h
        · exact (List.mem_cons.mp h).elim hhere hlater

theorem underscored_ascii (chars : List Char) (h : ∀ c ∈ chars, c.toNat < 128) :
    ∀ c ∈ underscored chars, c.toNat < 128 := by
  intro c hc
  rcases mem_underscored chars c hc with rfl | ⟨hm, _⟩
  · decide
  · exact h c hm

theorem lowerFrom_ascii (before text : List Char) (h : ∀ c ∈ text, c.toNat < 128) :
    lowerFrom before text = text.map Char.toLower := by
  induction text generalizing before with
  | nil => rfl
  | cons c after ih =>
      rw [List.forall_mem_cons] at h
      obtain ⟨_, _, hlower, hsigma⟩ := toLower_ascii c h.1
      rw [lowerFrom, if_neg hsigma, hlower, ih _ h.2]
      rfl

theorem intercalate_map_lower (words : List (List Char))
    (h : ∀ c ∈ ['_'].intercalate words, c.toNat < 128) :
    ['_'].intercalate (words.map lower) = (['_'].intercalate words).map Char.toLower := by
  induction words with
  | nil => rfl
  | cons word words ih =>
      cases words with
      | nil =>
          rw [List.intercalate_singleton] at h
          rw [List.map_singleton, List.intercalate_singleton, List.intercalate_singleton, lower,
            lowerFrom_ascii [] word h]
      | cons next words =>
          rw [List.intercalate_cons_cons, List.forall_mem_append, List.forall_mem_append] at h
          obtain ⟨⟨hword, _⟩, hwords⟩ := h
          rw [List.map_cons, List.map_cons, List.intercalate_cons_cons, List.intercalate_cons_cons,
            ← List.map_cons, ih hwords, lower, lowerFrom_ascii [] word hword, List.map_append,
            List.map_append]
          rfl

theorem toList_snakeCase (name : String) (h : ∀ c ∈ name.toList, c.toNat < 128) :
    (snakeCase name).toList = (underscored name.toList).map Char.toLower := by
  have hwords := intercalate_splitWords_graphemes name.toList h
  have hascii := underscored_ascii name.toList h
  rw [snakeCase, String.toList_ofList, intercalate_map_lower _ (hwords.symm ▸ hascii), hwords]

-- No word goes on from letters to digits, or from digits to letters.
def Shape.parts : Shape → Shape → Bool
  | .upper, .digit | .lower, .digit | .digit, .upper | .digit, .lower => true
  | _, _ => false

def Together (first second : Char) : Prop :=
  Shape.parts (Shape.of [first]) (Shape.of [second]) = false

-- A text in which no word ends but at an underscore.
structure Settled (chars : List Char) : Prop where
  ascii : ∀ c ∈ chars, c.toNat < 128
  plain : ∀ c ∈ chars, ¬c.isUpper ∧ c ≠ '-' ∧ c ≠ ' '
  together : chars.IsChain Together

theorem shape_underscore : Shape.of ['_'] = .separator := by
  decide +kernel

theorem together_of_not_wordEndsAt (c next : Char) (later : List (List Char))
    (h : wordEndsAt [c] ([next] :: later) = false) : Together c next := by
  rw [wordEndsAt] at h
  rw [Together]
  cases hc : Shape.of [c] <;> cases hnext : Shape.of [next] <;> simp_all [Shape.parts]

theorem not_wordEndsAt_of_together (c next : Char) (later : List (List Char))
    (htogether : Together c next) (hc : Shape.of [c] ≠ .upper) (hnext : Shape.of [next] ≠ .upper) :
    wordEndsAt [c] ([next] :: later) = false := by
  rw [Together] at htogether
  rw [wordEndsAt]
  cases hshape : Shape.of [c] <;> cases hshape' : Shape.of [next] <;> simp_all [Shape.parts]

theorem together_underscore_left (c : Char) : Together '_' c := by
  rw [Together, shape_underscore]
  rfl

theorem together_underscore_right (c : Char) : Together c '_' := by
  rw [Together, shape_underscore]
  cases Shape.of [c] <;> rfl

theorem head?_underscored (chars : List Char) (c : Char) (h : (underscored chars).head? = some c) :
    c = '_' ∨ chars.head? = some c := by
  cases chars with
  | nil => cases h
  | cons first rest =>
      rw [underscored] at h
      split at h
      · exact .inl (Option.some.inj h).symm
      · split at h
        · exact .inr h
        · exact .inr h

theorem isChain_underscored (chars : List Char) : (underscored chars).IsChain Together := by
  induction chars with
  | nil => exact .nil
  | cons c rest ih =>
      rw [underscored]
      split
      · exact List.isChain_cons.mpr ⟨fun next _ => together_underscore_left next, ih⟩
      · split
        · have hlater := List.isChain_cons.mpr ⟨fun next _ => together_underscore_left next, ih⟩
          exact .cons_cons (together_underscore_right c) hlater
        · next hends =>
          refine List.isChain_cons.mpr ⟨fun next hnext => ?_, ih⟩
          rcases head?_underscored rest next hnext with rfl | hhead
          · exact together_underscore_right c
          · obtain ⟨later, rfl⟩ := List.head?_eq_some_iff.mp hhead
            exact together_of_not_wordEndsAt c next _ (by simpa using hends)

theorem together_toLower (first second : Char) (hfirst : first.toNat < 128)
    (hsecond : second.toNat < 128) (h : Together first second) :
    Together first.toLower second.toLower := by
  rw [Together, shape_toLower first hfirst, shape_toLower second hsecond]
  rw [Together] at h
  cases hshape : Shape.of [first] <;> cases hshape' : Shape.of [second] <;>
    simp_all [Shape.parts]

theorem separator_toLower_iff (c : Char) (hc : c.toNat < 128) :
    (c.toLower = '_' ∨ c.toLower = '-' ∨ c.toLower = ' ') ↔ Shape.of [c] = .separator := by
  rw [← shape_separator_iff c.toLower (toLower_ascii c hc).1, shape_toLower c hc]
  split
  · next hupper => simp [hupper]
  · rfl

theorem settled_snakeCase (name : String) (h : ∀ c ∈ name.toList, c.toNat < 128) :
    Settled (snakeCase name).toList := by
  have hascii := underscored_ascii name.toList h
  rw [toList_snakeCase name h]
  constructor
  case ascii =>
    rw [List.forall_mem_map]
    exact fun c hc => (toLower_ascii c (hascii c hc)).1
  case plain =>
    rw [List.forall_mem_map]
    intro c hc
    refine ⟨(toLower_ascii c (hascii c hc)).2.1, ?_⟩
    rcases mem_underscored name.toList c hc with rfl | ⟨_, hshape⟩
    · decide
    · have hkept := mt (separator_toLower_iff c (hascii c hc)).mp hshape
      exact ⟨fun he => hkept (.inr (.inl he)), fun he => hkept (.inr (.inr he))⟩
  case together =>
    refine (List.isChain_map Char.toLower).mpr
      ((isChain_underscored name.toList).imp_of_mem_imp fun first second hfirst hsecond => ?_)
    exact together_toLower first second (hascii first hfirst) (hascii second hsecond)

-- Deleting what marks the words leaves the letters, digits and other characters as they were.
theorem filter_underscored (chars : List Char) (h : ∀ c ∈ chars, c.toNat < 128) :
    (((underscored chars).map Char.toLower).filter fun c => c ≠ '_') =
      (chars.map Char.toLower).filter fun c => c ≠ '_' ∧ c ≠ '-' ∧ c ≠ ' ' := by
  induction chars with
  | nil => rfl
  | cons c rest ih =>
      rw [List.forall_mem_cons] at h
      have hseparator := separator_toLower_iff c h.1
      have hmark : '_'.toLower = '_' := rfl
      rw [underscored]
      split
      · next hshape =>
        have hdropped := hseparator.mpr hshape
        have hnot : ¬(c.toLower ≠ '_' ∧ c.toLower ≠ '-' ∧ c.toLower ≠ ' ') := by
          rintro ⟨hline, hdash, hblank⟩
          exact (hdropped.resolve_left hline).elim hdash hblank
        rw [List.map_cons, List.map_cons, List.filter_cons_of_neg (by simp [hmark]),
          List.filter_cons_of_neg (by simpa using hnot), ih h.2]
      · next hshape =>
        have hkept := mt hseparator.mp hshape
        simp only [not_or] at hkept
        split
        · rw [List.map_cons, List.map_cons, List.map_cons,
            List.filter_cons_of_pos (by simpa using hkept.1),
            List.filter_cons_of_neg (by simp [hmark]),
            List.filter_cons_of_pos (by simpa using hkept), ih h.2]
        · rw [List.map_cons, List.map_cons, List.filter_cons_of_pos (by simpa using hkept.1),
            List.filter_cons_of_pos (by simpa using hkept), ih h.2]

theorem Settled.tail {c : Char} {rest : List Char} (h : Settled (c :: rest)) : Settled rest where
  ascii := (List.forall_mem_cons.mp h.ascii).2
  plain := (List.forall_mem_cons.mp h.plain).2
  together := h.together.tail

theorem Settled.shape_ne_upper {chars : List Char} (h : Settled chars) (c : Char) (hc : c ∈ chars) :
    Shape.of [c] ≠ .upper :=
  mt (shape_upper_iff c (h.ascii c hc)).mp (h.plain c hc).1

theorem Settled.underscored_eq {chars : List Char} (h : Settled chars) :
    underscored chars = chars := by
  induction chars with
  | nil => rfl
  | cons c rest ih =>
      have hrest := ih h.tail
      rw [underscored]
      split
      · next hshape =>
        obtain ⟨_, hdash, hblank⟩ := h.plain c List.mem_cons_self
        have hc := (shape_separator_iff c (h.ascii c List.mem_cons_self)).mp hshape
        obtain rfl := (hc.resolve_right (not_or.mpr ⟨hdash, hblank⟩))
        rw [hrest]
      · have hinside : wordEndsAt [c] (rest.map fun next => [next]) = false := by
          cases rest with
          | nil => rfl
          | cons next later =>
              have htogether := (List.isChain_cons.mp h.together).1 next rfl
              exact not_wordEndsAt_of_together c next _ htogether
                (h.shape_ne_upper c List.mem_cons_self) (h.shape_ne_upper next (by simp))
        rw [hinside, if_neg Bool.false_ne_true, hrest]

-- A name in snake case is its own snake case.
theorem Settled.snakeCase_eq {name : String} (h : Settled name.toList) : snakeCase name = name := by
  have hlower : ∀ c ∈ name.toList, c.toLower = id c := fun c hc =>
    toLower_of_not_isUpper c (h.ascii c hc) (h.plain c hc).1
  rw [← String.toList_inj, toList_snakeCase name h.ascii, h.underscored_eq,
    List.map_congr_left hlower, List.map_id]

end Text

-- The default name of a column or a table: what is left of a name, without capitals, dashes and blanks.
-- Whatever has this name for its own has it for its default name.
structure DefaultFor (name given : String) : Prop where
  ascii : ∀ c ∈ given.toList, c.toNat < 128
  plain : ∀ c ∈ given.toList, ¬c.isUpper ∧ c ≠ '-' ∧ c ≠ ' '
  content_eq : (given.toList.filter fun c => c ≠ '_') =
    (name.toList.map Char.toLower).filter fun c => c ≠ '_' ∧ c ≠ '-' ∧ c ≠ ' '
  column_stable : ∀ property : Property, property.name = given → property.column = none →
    property.columnName = given
  table_stable : ∀ entity : Entity, entity.name = given → entity.table = none →
    entity.tableName = given

theorem defaultFor_snakeCase (name : String) (h : ∀ c ∈ name.toList, c.toNat < 128) :
    DefaultFor name (Text.snakeCase name) := by
  have hsettled := Text.settled_snakeCase name h
  constructor
  case ascii => exact hsettled.ascii
  case plain => exact hsettled.plain
  case content_eq =>
    rw [Text.toList_snakeCase name h]
    exact Text.filter_underscored name.toList h
  case column_stable =>
    intro property hname hcolumn
    rw [Property.columnName, hcolumn, Option.getD_none, hname, hsettled.snakeCase_eq]
  case table_stable =>
    intro entity hname htable
    rw [Entity.tableName, htable, Option.getD_none, hname, hsettled.snakeCase_eq]

theorem default_names_settled (name : String) (hascii : ∀ c ∈ name.toList, c.toNat < 128) :
    (∀ property : Property, property.name = name → property.column = none →
      DefaultFor name property.columnName) ∧
    ∀ entity : Entity, entity.name = name → entity.table = none →
      DefaultFor name entity.tableName := by
  have hdefault := defaultFor_snakeCase name hascii
  constructor
  · intro property hname hcolumn
    rw [Property.columnName, hcolumn, Option.getD_none, hname]
    exact hdefault
  · intro entity hname htable
    rw [Entity.tableName, htable, Option.getD_none, hname]
    exact hdefault

-- An acronym, a number and all three separators.
theorem default_names_settled_httpServer :
    (∀ c ∈ "HTTPServer2Go-v _1".toList, c.toNat < 128) ∧
      (⟨"HTTPServer2Go-v _1", .scalar .text, none⟩ : Property).columnName =
        "http_server_2_go_v__1" ∧
      DefaultFor "HTTPServer2Go-v _1" "http_server_2_go_v__1" := by
  have hascii : ∀ c ∈ "HTTPServer2Go-v _1".toList, c.toNat < 128 := by simp
  have hname : (⟨"HTTPServer2Go-v _1", .scalar .text, none⟩ : Property).columnName =
      "http_server_2_go_v__1" := by
    decide +kernel
  obtain ⟨hcolumn, _⟩ := default_names_settled "HTTPServer2Go-v _1" hascii
  exact ⟨hascii, hname, hname ▸ hcolumn _ rfl rfl⟩

end Finder
