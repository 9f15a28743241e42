import Finder.Json.Number
import Finder.Json.StringLiteral

namespace Finder.Json

inductive Token where
  | openList
  | closeList
  | openObject
  | closeObject
  | comma
  | colon
  | null
  | bool (value : Bool)
  | number (literal : NumberLiteral)
  | string (literal : StringLiteral)
  | badWord (atEnd : Bool)
  | badNumber (atEnd : Bool)
  | stray
  deriving DecidableEq, Repr

def digit? (c : Char) : Option Nat :=
  if '0' ≤ c ∧ c ≤ '9' then some (c.toNat - 0x30) else none

def hexDigit? (c : Char) : Option Nat :=
  if '0' ≤ c ∧ c ≤ '9' then some (c.toNat - 0x30)
  else if 'a' ≤ c ∧ c ≤ 'f' then some (c.toNat - 0x57)
  else if 'A' ≤ c ∧ c ≤ 'F' then some (c.toNat - 0x37)
  else none

-- Where a number stands. All digits are held last first.
inductive NumberState where
  | sign
  | zero (negative : Bool)
  | whole (negative : Bool) (digits : List Nat)
  | point (negative : Bool) (whole : List Nat)
  | fraction (negative : Bool) (whole digits : List Nat)
  | mark (negative : Bool) (whole fraction : List Nat)
  | markSign (negative : Bool) (whole fraction : List Nat) (minus : Bool)
  | exponent (negative : Bool) (whole fraction : List Nat) (minus : Bool) (digits : List Nat)

inductive NumberStep where
  | goOn (state : NumberState)
  | finish
  | bad

namespace NumberState

-- The literal, if the number may end here.
def literal? : NumberState → Option NumberLiteral
  | .zero negative => some ⟨negative, [0], [], none⟩
  | .whole negative digits => some ⟨negative, digits.reverse, [], none⟩
  | .fraction negative before digits => some ⟨negative, before.reverse, digits.reverse, none⟩
  | .exponent negative before after minus digits =>
      some ⟨negative, before.reverse, after.reverse, some (minus, digits.reverse)⟩
  | .sign | .point _ _ | .mark _ _ _ | .markSign _ _ _ _ => none

def isMark (c : Char) : Bool :=
  c == 'e' || c == 'E'

def step (state : NumberState) (c : Char) : NumberStep :=
  match state, digit? c with
  | .sign, some 0 => .goOn (.zero true)
  | .sign, some digit => .goOn (.whole true [digit])
  | .sign, none => .bad
  | .zero _, some _ => .bad
  | .zero negative, none =>
      if c == '.' then .goOn (.point negative [0])
      else if isMark c then .goOn (.mark negative [0] [])
      else .finish
  | .whole negative digits, some digit => .goOn (.whole negative (digit :: digits))
  | .whole negative digits, none =>
      if c == '.' then .goOn (.point negative digits)
      else if isMark c then .goOn (.mark negative digits [])
      else .finish
  | .point negative before, some digit => .goOn (.fraction negative before [digit])
  | .point _ _, none => .bad
  | .fraction negative before digits, some digit =>
      .goOn (.fraction negative before (digit :: digits))
  | .fraction negative before digits, none =>
      if isMark c then .goOn (.mark negative before digits) else .finish
  | .mark negative before after, some digit =>
      .goOn (.exponent negative before after false [digit])
  | .mark negative before after, none =>
      if c == '+' then .goOn (.markSign negative before after false)
      else if c == '-' then .goOn (.markSign negative before after true)
      else .bad
  | .markSign negative before after minus, some digit =>
      .goOn (.exponent negative before after minus [digit])
  | .markSign _ _ _ _, none => .bad
  | .exponent negative before after minus digits, some digit =>
      .goOn (.exponent negative before after minus (digit :: digits))
  | .exponent _ _ _ _ _, none => .finish

end NumberState

-- What stands open between two characters. Units and digits are held last first.
inductive LexState where
  | between
  | word (next : Char) (later : List Char) (token : Token)
  | number (state : NumberState)
  | string (units : List Unit16)
  | escape (units : List Unit16)
  | code (units : List Unit16) (digits : List Nat)

inductive LexStart where
  | skip
  | emit (token : Token)
  | enter (state : LexState)
  | stray

def LexStart.of (c : Char) : LexStart :=
  match c with
  | ' ' | '\n' | '\t' | '\r' => .skip
  | '[' => .emit .openList
  | ']' => .emit .closeList
  | '\x7b' => .emit .openObject
  | '\x7d' => .emit .closeObject
  | ',' => .emit .comma
  | ':' => .emit .colon
  | '"' => .enter (.string [])
  | 'n' => .enter (.word 'u' ['l', 'l'] .null)
  | 't' => .enter (.word 'r' ['u', 'e'] (.bool true))
  | 'f' => .enter (.word 'a' ['l', 's', 'e'] (.bool false))
  | '-' => .enter (.number .sign)
  | c =>
      match digit? c with
      | some 0 => .enter (.number (.zero false))
      | some digit => .enter (.number (.whole false [digit]))
      | none => .stray

def escaped? : Char → Option Char
  | '"' => some '"'
  | '\\' => some '\\'
  | '/' => some '/'
  | 'b' => some '\x08'
  | 'f' => some '\x0c'
  | 'n' => some '\n'
  | 'r' => some '\r'
  | 't' => some '\t'
  | _ => none

def codeOf (digits : List Nat) : Nat :=
  digits.foldr (fun digit value => value * 16 + digit) 0

def stringToken (units : List Unit16) (ending : StringEnd) : Token :=
  .string ⟨units.reverse, ending⟩

-- An escape needs four more bytes, whatever they are, before it can be wrong.
def codeEnd (digits : List Nat) (rest : List Char) : StringEnd :=
  if digits.length + rest.foldl (fun size c => size + c.utf8Size) 0 < 4 then .cut else .badCode

def lexFrom : LexState → List Char → List Token
  | .between, [] => []
  | .between, c :: rest =>
      match LexStart.of c with
      | .skip => lexFrom .between rest
      | .emit token => token :: lexFrom .between rest
      | .enter state => lexFrom state rest
      | .stray => [.stray]
  | .word _ _ _, [] => [.badWord true]
  | .word next later token, c :: rest =>
      if c ≠ next then [.badWord false]
      else match later with
        | [] => token :: lexFrom .between rest
        | next :: later => lexFrom (.word next later token) rest
  | .number state, [] =>
      match state.literal? with
      | some literal => [.number literal]
      | none => [.badNumber true]
  | .number state, c :: rest =>
      match state.step c, state.literal? with
      | .goOn next, _ => lexFrom (.number next) rest
      | .finish, some literal =>
          match LexStart.of c with
          | .skip => .number literal :: lexFrom .between rest
          | .emit next => .number literal :: next :: lexFrom .between rest
          | .enter state => .number literal :: lexFrom state rest
          | .stray => [.number literal, .stray]
      | _, _ => [.badNumber false]
  | .string units, [] => [stringToken units .cut]
  | .string units, c :: rest =>
      if c = '"' then stringToken units .closed :: lexFrom .between rest
      else if c = '\\' then lexFrom (.escape units) rest
      else if c.toNat < 0x20 then [stringToken units .control]
      else lexFrom (.string (.plain c :: units)) rest
  | .escape units, [] => [stringToken units .cut]
  | .escape units, c :: rest =>
      if c = 'u' then lexFrom (.code units []) rest
      else match escaped? c with
        | some plain => lexFrom (.string (.plain plain :: units)) rest
        | none => [stringToken units .badEscape]
  | .code units _, [] => [stringToken units .cut]
  | .code units digits, c :: rest =>
      match hexDigit? c with
      | none => [stringToken units (codeEnd digits (c :: rest))]
      | some digit =>
          if digits.length = 3 then
            lexFrom (.string (.code (codeOf (digit :: digits)) :: units)) rest
          else lexFrom (.code units (digit :: digits)) rest

def lex (text : List Char) : List Token :=
  lexFrom .between text

end Finder.Json
