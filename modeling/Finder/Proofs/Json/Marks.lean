import Finder.Json.Token
import Finder.Json.Tree
import Mathlib.Tactic.IntervalCases

namespace Finder.Json

inductive Mark where
  | openList
  | closeList
  | openObject
  | closeObject
  | comma
  | colon
  | null
  | integer (value : Int)
  | text (value : String)
  deriving DecidableEq, Repr

-- Control characters without an escape of their own are written by their codes.
def unitOf (c : Char) : Unit16 :=
  if c.toNat < 0x20 ∧ c.toNat ∉ [0x08, 0x09, 0x0A, 0x0C, 0x0D] then .code c.toNat else .plain c

def literalOf (value : String) : StringLiteral :=
  ⟨value.toList.map unitOf, .closed⟩

def digitsOf (n : Nat) : List Nat :=
  (Nat.toDigits 10 n).map fun c => c.toNat - 0x30

def numeralOf (value : Int) : NumberLiteral :=
  ⟨value < 0, digitsOf value.natAbs, [], none⟩

namespace Mark

def chars : Mark → List Char
  | .openList => ['[']
  | .closeList => [']']
  | .openObject => ['\x7b']
  | .closeObject => ['\x7d']
  | .comma => [',']
  | .colon => [':']
  | .null => ['n', 'u', 'l', 'l']
  | .integer value => (toString value).toList
  | .text value => quoted value

def token : Mark → Token
  | .openList => .openList
  | .closeList => .closeList
  | .openObject => .openObject
  | .closeObject => .closeObject
  | .comma => .comma
  | .colon => .colon
  | .null => .null
  | .integer value => .number (numeralOf value)
  | .text value => .string (literalOf value)

end Mark

-- The text does not go on with what would belong to a number before it.
def EndsNumber : List Char → Prop
  | [] => True
  | c :: _ => digit? c = none ∧ c ≠ '.' ∧ NumberState.isMark c = false

-- Marks as a text, with any blanks around them.
inductive Laid : List Mark → List Char → Prop
  | done : Laid [] []
  | blank {marks : List Mark} {text : List Char} (c : Char) (hc : LexStart.of c = .skip)
      (h : Laid marks text) : Laid marks (c :: text)
  | mark {marks : List Mark} {text : List Char} (mark : Mark)
      (hend : (∃ value, mark = .integer value) → EndsNumber text) (h : Laid marks text) :
      Laid (mark :: marks) (mark.chars ++ text)

theorem hexDigit?_digitChar : ∀ digit < 16, hexDigit? (Nat.digitChar digit) = some digit := by
  decide

theorem lexFrom_code (units : List Unit16) (first second third fourth : Char) (rest : List Char)
    (a b c d : Nat) (ha : hexDigit? first = some a) (hb : hexDigit? second = some b)
    (hc : hexDigit? third = some c) (hd : hexDigit? fourth = some d) :
    lexFrom (.string units) ('\\' :: 'u' :: first :: second :: third :: fourth :: rest) =
      lexFrom (.string (.code (codeOf [d, c, b, a]) :: units)) rest := by
  simp [lexFrom, ha, hb, hc, hd]

-- A character inside a string is read back, whichever way it is escaped.
theorem lexFrom_escaped (units : List Unit16) (c : Char) (rest : List Char) :
    lexFrom (.string units) (escaped c ++ rest) = lexFrom (.string (unitOf c :: units)) rest := by
  have hshort (n : Nat) (h : c.toNat = n) : c = Char.ofNat n := by
    rw [← h, Char.ofNat_toNat]
  unfold escaped
  split
  · next h => subst h; rfl
  split
  · next h => subst h; rfl
  split
  · next h => obtain rfl := hshort _ h; rfl
  split
  · next h => obtain rfl := hshort _ h; rfl
  split
  · next h => obtain rfl := hshort _ h; rfl
  split
  · next h => obtain rfl := hshort _ h; rfl
  split
  · next h => obtain rfl := hshort _ h; rfl
  split
  · next hquote hslash h8 h9 hA hC hD hcontrol =>
    have hunit : unitOf c = .code c.toNat := by
      rw [unitOf, if_pos]
      simp [hcontrol, h8, h9, hA, hC, hD]
    have hcode : codeOf [c.toNat % 16, c.toNat / 16, 0, 0] = c.toNat := by
      simp only [codeOf, List.foldr_cons, List.foldr_nil]
      omega
    have hlex := lexFrom_code units '0' '0' (Nat.digitChar (c.toNat / 16))
      (Nat.digitChar (c.toNat % 16)) rest 0 0 (c.toNat / 16) (c.toNat % 16) rfl rfl
      (hexDigit?_digitChar _ (by omega)) (hexDigit?_digitChar _ (by omega))
    rw [hcode] at hlex
    rw [hunit]
    exact hlex
  · next hquote hslash h8 h9 hA hC hD hcontrol =>
    have hunit : unitOf c = .plain c := by
      rw [unitOf, if_neg]
      exact fun h => hcontrol h.1
    rw [hunit, List.singleton_append, lexFrom, if_neg hquote, if_neg hslash, if_neg hcontrol]

theorem lexFrom_quoted (value : String) (rest : List Char) :
    lexFrom .between (quoted value ++ rest) =
      .string (literalOf value) :: lexFrom .between rest := by
  have hbody (units : List Unit16) (body : List Char) :
      lexFrom (.string units) (body.flatMap escaped ++ '"' :: rest) =
        .string ⟨units.reverse ++ body.map unitOf, .closed⟩ :: lexFrom .between rest := by
    induction body generalizing units with
    | nil => simp [lexFrom, stringToken]
    | cons c body ih =>
        rw [List.flatMap_cons, List.append_assoc, lexFrom_escaped, ih]
        simp
  have hopen : lexFrom .between (quoted value ++ rest) =
      lexFrom (.string []) (value.toList.flatMap escaped ++ '"' :: rest) := by
    simp [quoted, lexFrom, LexStart.of]
  rw [hopen, hbody]
  simp [literalOf]

theorem lexFrom_ended (state : NumberState) (literal : NumberLiteral) (rest : List Char)
    (hliteral : state.literal? = some literal)
    (hend : ∀ c later, rest = c :: later → state.step c = .finish) :
    lexFrom (.number state) rest = .number literal :: lexFrom .between rest := by
  cases rest with
  | nil => simp [lexFrom, hliteral]
  | cons c later =>
      have hstep := hend c later rfl
      rw [lexFrom, lexFrom, hstep, hliteral]
      dsimp only
      cases LexStart.of c <;> rfl

theorem digit?_of_isDigit (c : Char) (h : c.isDigit) : digit? c = some (c.toNat - 0x30) := by
  have hbounds : '0' ≤ c ∧ c ≤ '9' := by
    simpa [Char.isDigit, Char.le_def] using h
  rw [digit?, if_pos hbounds]

theorem step_finish_of_ends (state : NumberState) (text : List Char) (hend : EndsNumber text)
    (hstate : ∃ negative digits, state = .zero negative ∨ state = .whole negative digits) :
    ∀ c later, text = c :: later → state.step c = .finish := by
  rintro c later rfl
  obtain ⟨hdigit, hpoint, hmark⟩ := hend
  obtain ⟨negative, digits, rfl | rfl⟩ := hstate <;>
    simp [NumberState.step, hdigit, hpoint, hmark]

theorem lexFrom_digits (negative : Bool) (before : List Nat) (digits rest : List Char)
    (hdigits : ∀ c ∈ digits, c.isDigit) (hend : EndsNumber rest) :
    lexFrom (.number (.whole negative before)) (digits ++ rest) =
      .number ⟨negative, before.reverse ++ digits.map (fun c => c.toNat - 0x30), [], none⟩ ::
        lexFrom .between rest := by
  induction digits generalizing before with
  | nil =>
      have hstep := step_finish_of_ends (.whole negative before) rest hend ⟨negative, before, .inr rfl⟩
      rw [List.nil_append, lexFrom_ended _ _ _ rfl hstep]
      simp
  | cons c digits ih =>
      rw [List.forall_mem_cons] at hdigits
      have hdigit := digit?_of_isDigit c hdigits.1
      have hstep : (NumberState.whole negative before).step c =
          .goOn (.whole negative ((c.toNat - 0x30) :: before)) := by
        simp [NumberState.step, hdigit]
      rw [List.cons_append, lexFrom, hstep]
      dsimp only
      rw [ih _ hdigits.2]
      simp

-- A number is written without zeros before it.
theorem exists_leading (n : Nat) (hn : 0 < n) :
    ∃ digit later, 0 < digit ∧ digit < 10 ∧ Nat.toDigits 10 n = Nat.digitChar digit :: later := by
  induction n using Nat.strongRecOn with
  | ind n ih =>
      rw [Nat.toDigits_eq_if (by decide)]
      split
      · next hsmall => exact ⟨n, [], hn, hsmall, rfl⟩
      · next hlarge =>
        obtain ⟨digit, later, hpos, hten, hdigits⟩ := ih (n / 10) (by omega) (by omega)
        exact ⟨digit, _, hpos, hten, by rw [hdigits, List.cons_append]⟩

theorem lexStart_digitChar (digit : Nat) (hpos : 0 < digit) (hten : digit < 10) :
    LexStart.of (Nat.digitChar digit) = .enter (.number (.whole false [digit])) ∧
      NumberState.sign.step (Nat.digitChar digit) = .goOn (.whole true [digit]) ∧
      (Nat.digitChar digit).toNat - 0x30 = digit := by
  interval_cases digit <;> exact ⟨rfl, rfl, rfl⟩

-- The digits of a number, the first of which has been seen.
theorem lexFrom_magnitude (negative : Bool) (n : Nat) (rest : List Char) (digit : Nat)
    (later : List Char) (hdigits : Nat.toDigits 10 n = Nat.digitChar digit :: later)
    (hdigit : (Nat.digitChar digit).toNat - 0x30 = digit) (hend : EndsNumber rest) :
    lexFrom (.number (.whole negative [digit])) (later ++ rest) =
      .number ⟨negative, digitsOf n, [], none⟩ :: lexFrom .between rest := by
  have hlater : ∀ c ∈ later, c.isDigit := by
    intro c hc
    have hmem : c ∈ Nat.toDigits 10 n := hdigits ▸ List.mem_cons_of_mem _ hc
    exact Nat.isDigit_of_mem_toDigits (by decide) (by decide) hmem
  rw [lexFrom_digits negative [digit] later rest hlater hend]
  simp [digitsOf, hdigits, hdigit]

theorem lexFrom_integer (value : Int) (rest : List Char) (hend : EndsNumber rest) :
    lexFrom .between ((toString value).toList ++ rest) =
      .number (numeralOf value) :: lexFrom .between rest := by
  have hchars (n : Nat) : (Nat.repr n).toList = Nat.toDigits 10 n := by
    rw [Nat.repr_eq_ofList_toDigits, String.toList_ofList]
  match value with
  | .ofNat 0 =>
      have hstep := step_finish_of_ends (.zero false) rest hend ⟨false, [], .inl rfl⟩
      exact lexFrom_ended (.zero false) _ rest rfl hstep
  | .ofNat (n + 1) =>
      obtain ⟨digit, later, hpos, hten, hdigits⟩ := exists_leading (n + 1) (Nat.succ_pos n)
      obtain ⟨hstart, _, hdigit⟩ := lexStart_digitChar digit hpos hten
      have hwritten : (toString (Int.ofNat (n + 1))).toList = Nat.digitChar digit :: later :=
        (hchars (n + 1)).trans hdigits
      rw [hwritten, List.cons_append, lexFrom, hstart]
      exact lexFrom_magnitude false (n + 1) rest digit later hdigits hdigit hend
  | .negSucc n =>
      obtain ⟨digit, later, hpos, hten, hdigits⟩ := exists_leading (n + 1) (Nat.succ_pos n)
      obtain ⟨_, hsign, hdigit⟩ := lexStart_digitChar digit hpos hten
      have hwritten : (toString (Int.negSucc n)).toList = '-' :: Nat.digitChar digit :: later := by
        show ("-" ++ Nat.repr (n + 1)).toList = _
        rw [String.toList_append, hchars, hdigits]
        rfl
      have hminus (text : List Char) :
          lexFrom .between ('-' :: text) = lexFrom (.number .sign) text := rfl
      have hnumeral : numeralOf (Int.negSucc n) = ⟨true, digitsOf (n + 1), [], none⟩ := by
        simp [numeralOf, Int.negSucc_lt_zero]
      rw [hwritten, List.cons_append, List.cons_append, hminus, hnumeral, lexFrom, hsign]
      dsimp only
      exact lexFrom_magnitude true (n + 1) rest digit later hdigits hdigit hend

-- A mark at the start of a text is read as its token.
theorem lexFrom_mark (mark : Mark) (rest : List Char)
    (hend : (∃ value, mark = .integer value) → EndsNumber rest) :
    lexFrom .between (mark.chars ++ rest) = mark.token :: lexFrom .between rest := by
  cases mark with
  | integer value => exact lexFrom_integer value rest (hend ⟨value, rfl⟩)
  | text value => exact lexFrom_quoted value rest
  | openList | closeList | openObject | closeObject | comma | colon | null => rfl

theorem lex_laid {marks : List Mark} {text : List Char} (h : Laid marks text) :
    lex text = marks.map Mark.token := by
  unfold lex
  induction h with
  | done => rfl
  | blank c hc _ ih =>
      rw [lexFrom, hc]
      exact ih
  | mark mark hend _ ih => rw [lexFrom_mark mark _ hend, ih, List.map_cons]

end Finder.Json
