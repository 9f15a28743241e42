import Finder.Json.Error
import Finder.Real.Decimal

namespace Finder.Json

structure NumberLiteral where
  negative : Bool
  whole : List Nat
  fraction : List Nat
  -- The digits of the exponent, and whether a minus stands before them.
  exponent : Option (Bool × List Nat)
  deriving DecidableEq, Repr

inductive NumberValue where
  | integer (value : Int)
  | real (value : Binary64)
  deriving DecidableEq, Repr

namespace NumberLiteral

def greatestSignificand : Nat := Nat.pow 2 64 - 1

-- Adds digits as long as the number fits. Gives the digits that are left, from the first that does
-- not fit.
def addDigits (significand : Nat) : List Nat → Nat × List Nat
  | [] => (significand, [])
  | digit :: rest =>
      if significand * 10 + digit ≤ greatestSignificand then
        addDigits (significand * 10 + digit) rest
      else (significand, digit :: rest)

def greatestExponent : Nat := Nat.pow 2 31 - 1

def valueOf (digits : List Nat) : Nat :=
  digits.foldl (fun value digit => value * 10 + digit) 0

-- The powers of ten that are at hand end here; smaller numbers are divided more than once.
def greatestPower : Nat := 308

def divideByTens (size : Binary64) (exponent : Nat) : Binary64 :=
  if exponent ≤ greatestPower then size.scaleDown (Binary64.ofDecimal 1 exponent)
  else
    let smaller := size.scaleDown (Binary64.ofDecimal 1 greatestPower)
    if smaller.same Binary64.zero then smaller
    else divideByTens smaller (exponent - greatestPower)
termination_by exponent
decreasing_by
  simp only [greatestPower] at *
  omega

def realOf (significand : Nat) (exponent : Int) : Except Fault Binary64 :=
  let size := Binary64.ofNat significand
  if exponent < 0 then .ok (divideByTens size exponent.natAbs)
  else if size.same Binary64.zero then .ok size
  else if (greatestPower : Int) < exponent then .error .numberOutOfRange
  else
    let value := size.scaleUp (Binary64.ofDecimal 1 exponent)
    if value.isInfinite then .error .numberOutOfRange else .ok value

def real (literal : NumberLiteral) : Except Fault Binary64 :=
  let (significand, left) := addDigits 0 literal.whole
  let (significand, unused) := addDigits significand literal.fraction
  let point : Int := left.length - ((literal.fraction.length - unused.length : Nat) : Int)
  match literal.exponent with
  | none => realOf significand point
  | some (negative, digits) =>
      if valueOf digits ≤ greatestExponent then
        realOf significand (if negative then point - valueOf digits else point + valueOf digits)
      else if significand ≠ 0 ∧ !negative then .error .numberOutOfRange
      else .ok Binary64.zero

-- The literal without a sign is a whole number that fits.
def isWhole (literal : NumberLiteral) : Bool :=
  literal.fraction.isEmpty && literal.exponent.isNone &&
    valueOf literal.whole ≤ greatestSignificand

-- Whole numbers that fit into 64 bits are exact; all others are reals that are computed from the
-- first digits and a power of ten.
def value (literal : NumberLiteral) : Except Fault NumberValue :=
  if literal.isWhole then
    let size := valueOf literal.whole
    if !literal.negative then .ok (.integer size)
    else if size = 0 ∨ Nat.pow 2 63 < size then .ok (.real ((Binary64.ofNat size).withSign true))
    else .ok (.integer (-size))
  else literal.real.map fun size => .real (size.withSign literal.negative)

end NumberLiteral

-- Reals are written out up to sixteen places before the point and five zeros after it.
def realFormat : RealFormat :=
  ⟨-5, 15, true⟩

def NumberValue.found : NumberValue → Found
  | .integer value => .integer value
  | .real value => .real (realFormat.write value)

end Finder.Json
