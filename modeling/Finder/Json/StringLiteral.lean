import Finder.Json.Error

namespace Finder.Json

-- A character, or four hexadecimal digits of an escape.
inductive Unit16 where
  | plain (c : Char)
  | code (code : Nat)
  deriving DecidableEq, Repr

inductive StringEnd where
  | closed
  | cut
  | control
  -- An escape that is unknown, or one that lacks hexadecimal digits.
  | badEscape
  | badCode
  deriving DecidableEq, Repr

structure StringLiteral where
  units : List Unit16
  ending : StringEnd
  deriving DecidableEq, Repr

namespace StringLiteral

def isLeading (code : Nat) : Bool :=
  0xD800 ≤ code && code ≤ 0xDBFF

def isTrailing (code : Nat) : Bool :=
  0xDC00 ≤ code && code ≤ 0xDFFF

def pair (leading trailing : Nat) : Char :=
  Char.ofNat (0x10000 + (leading - 0xD800) * 0x400 + (trailing - 0xDC00))

def endFault? : StringEnd → Option Fault
  | .closed => none
  | .cut => some .cutInString
  | .control => some .controlCharacter
  | .badEscape | .badCode => some .invalidEscape

-- After the first half of a pair an escape for the second half has to follow.
def unpairedFault : StringEnd → Fault
  | .closed | .control | .badEscape => .unpairedSurrogate
  | .cut => .cutInString
  | .badCode => .invalidEscape

def textFrom (ending : StringEnd) : List Unit16 → Except Fault (List Char)
  | [] =>
      match endFault? ending with
      | none => .ok []
      | some fault => .error fault
  | .plain c :: rest => (textFrom ending rest).map (c :: ·)
  | .code code :: rest =>
      if isTrailing code then .error .loneSurrogate
      else if isLeading code then
        match rest with
        | [] => .error (unpairedFault ending)
        | .plain _ :: _ => .error .unpairedSurrogate
        | .code second :: rest =>
            if isTrailing second then (textFrom ending rest).map (pair code second :: ·)
            else .error .loneSurrogate
      else (textFrom ending rest).map (Char.ofNat code :: ·)

def text (literal : StringLiteral) : Except Fault String :=
  (textFrom literal.ending literal.units).map String.ofList

-- A string that nobody reads only has to end.
def skipFault? (literal : StringLiteral) : Option Fault :=
  endFault? literal.ending

end StringLiteral

end Finder.Json
