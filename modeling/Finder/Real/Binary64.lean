namespace Finder

-- A finite number is `mantissa * 2 ^ exponent`. The mantissa has 53 digits, or fewer at the least
-- exponent, so that each number has one form for each sign.
inductive Binary64 where
  | finite (negative : Bool) (mantissa : Nat) (exponent : Int)
  | infinite (negative : Bool)
  deriving DecidableEq, Repr

namespace Binary64

def leastExponent : Int := -1074

def greatestExponent : Int := 971

def zero : Binary64 :=
  .finite false 0 leastExponent

def isNegative : Binary64 → Bool
  | .finite negative _ _ => negative
  | .infinite negative => negative

def isInfinite : Binary64 → Bool
  | .finite _ _ _ => false
  | .infinite _ => true

def withSign (negative : Bool) : Binary64 → Binary64
  | .finite _ mantissa exponent => .finite negative mantissa exponent
  | .infinite _ => .infinite negative

-- The quotient, rounded to the nearest whole number and from the middle to the even one.
def roundQuotient (numerator denominator : Nat) : Nat :=
  let quotient := numerator / denominator
  let rest := numerator % denominator
  if 2 * rest < denominator then quotient
  else if denominator < 2 * rest then quotient + 1
  else quotient + quotient % 2

-- The ratio divided by a power of two, as a ratio.
def scale (numerator denominator : Nat) (exponent : Int) : Nat × Nat :=
  if 0 ≤ exponent then (numerator, denominator * Nat.pow 2 exponent.toNat)
  else (numerator * Nat.pow 2 (-exponent).toNat, denominator)

-- The exponent at which the quotient has 53 digits before the point, or the least one. The lengths
-- of numerator and denominator give it up to one.
def exponentOf (numerator denominator : Nat) : Int :=
  let guess : Int := (Nat.log2 numerator : Int) - Nat.log2 denominator - 52
  let scaled := scale numerator denominator guess
  max leastExponent (if scaled.1 < Nat.pow 2 52 * scaled.2 then guess - 1 else guess)

-- The number nearest to a ratio. The denominator is not zero.
def ofRatio (numerator denominator : Nat) : Binary64 :=
  if numerator = 0 then zero
  else
    let exponent := exponentOf numerator denominator
    let scaled := scale numerator denominator exponent
    let mantissa := roundQuotient scaled.1 scaled.2
    let (mantissa, exponent) :=
      if mantissa = Nat.pow 2 53 then (Nat.pow 2 52, exponent + 1) else (mantissa, exponent)
    if greatestExponent < exponent then .infinite false else .finite false mantissa exponent

def ofNat (n : Nat) : Binary64 :=
  ofRatio n 1

-- The size of a finite number as a ratio.
def ratio (mantissa : Nat) (exponent : Int) : Nat × Nat :=
  if 0 ≤ exponent then (mantissa * Nat.pow 2 exponent.toNat, 1)
  else (mantissa, Nat.pow 2 (-exponent).toNat)

-- Products and quotients of sizes, rounded once.
def scaleUp (x y : Binary64) : Binary64 :=
  match x, y with
  | .finite _ m e, .finite _ n f =>
      let (a, b) := ratio m e
      let (c, d) := ratio n f
      ofRatio (a * c) (b * d)
  | _, _ => .infinite false

def scaleDown (x y : Binary64) : Binary64 :=
  match x, y with
  | .finite _ m e, .finite _ n f =>
      let (a, b) := ratio m e
      let (c, d) := ratio n f
      ofRatio (a * d) (b * c)
  | .infinite _, _ => .infinite false
  | _, .infinite _ => zero

-- The number nearest to `digits * 10 ^ exponent`. Exponents far outside the range are not computed.
def ofDecimal (digits : Nat) (exponent : Int) : Binary64 :=
  let size : Int := (Nat.toDigits 10 digits).length + exponent
  if digits = 0 then zero
  else if 400 < size then .infinite false
  else if size < -400 then zero
  else if 0 ≤ exponent then ofRatio (digits * Nat.pow 10 exponent.toNat) 1
  else ofRatio digits (Nat.pow 10 (-exponent).toNat)

-- Whether a whole number and a finite one are the same.
def equalsInt (n : Int) : Binary64 → Bool
  | .infinite _ => false
  | .finite negative mantissa exponent =>
      let (a, b) := ratio mantissa exponent
      n * b == if negative then -(a : Int) else a

-- Equality of numbers, for which the two zeros are one.
def same (x y : Binary64) : Bool :=
  match x, y with
  | .finite _ 0 _, .finite _ 0 _ => true
  | _, _ => x == y

end Binary64

end Finder
