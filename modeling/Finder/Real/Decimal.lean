import Finder.Real.Binary64

namespace Finder

-- The value `0.d₁d₂… * 10 ^ point`, given by its digits without zeros at the end.
structure Decimal where
  digits : List Char
  point : Int
  deriving DecidableEq, Repr

namespace Decimal

def lessOrEqual (x y : Nat × Nat) : Bool :=
  x.1 * y.2 ≤ y.1 * x.2

def less (x y : Nat × Nat) : Bool :=
  x.1 * y.2 < y.1 * x.2

def tenTo (exponent : Int) : Nat × Nat :=
  if 0 ≤ exponent then (Nat.pow 10 exponent.toNat, 1) else (1, Nat.pow 10 (-exponent).toNat)

-- The reals that round to a number: from half way to its neighbour below to half way to the one
-- above. Below a power of two the neighbour is nearer by half.
structure Interval where
  low : Nat × Nat
  high : Nat × Nat
  closed : Bool

def Interval.around (mantissa : Nat) (exponent : Int) : Interval where
  low :=
    if mantissa = Nat.pow 2 52 ∧ Binary64.leastExponent < exponent then
      Binary64.ratio (4 * mantissa - 1) (exponent - 2)
    else Binary64.ratio (2 * mantissa - 1) (exponent - 1)
  high := Binary64.ratio (2 * mantissa + 1) (exponent - 1)
  closed := mantissa % 2 = 0

def Interval.has (interval : Interval) (x : Nat × Nat) : Bool :=
  if interval.closed then lessOrEqual interval.low x && lessOrEqual x interval.high
  else less interval.low x && less x interval.high

-- The exponent of the first digit. The logarithm to base two gives it up to one.
def leadingExponent (value : Nat × Nat) : Int :=
  let binary : Int := (Nat.log2 value.1 : Int) - Nat.log2 value.2
  let guess := Int.fdiv (binary * 30103) 100000
  if less value (tenTo guess) then
    if less value (tenTo (guess - 1)) then guess - 2 else guess - 1
  else if lessOrEqual (tenTo (guess + 1)) value then guess + 1
  else guess

def stripZeros (digits : List Char) : List Char :=
  (digits.reverse.dropWhile fun digit => digit == '0').reverse

-- The number `count * 10 ^ unit`.
def ofGrid (count : Nat) (unit : Int) : Decimal :=
  let digits := Nat.toDigits 10 count
  ⟨stripZeros digits, digits.length + unit⟩

-- The points of a grid next to the value, as far as they read back; of two the nearer.
def onGrid? (interval : Interval) (value : Nat × Nat) (unit : Int) : Option Decimal :=
  let step := tenTo unit
  let below := value.1 * step.2 / (value.2 * step.1)
  let point (count : Nat) : Nat × Nat := (count * step.1, step.2)
  let hitsBelow := 0 < below && interval.has (point below)
  let hitsAbove := interval.has (point (below + 1))
  if hitsBelow && hitsAbove then
    -- Twice the value against the sum of the two points.
    let middle := ((2 * below + 1) * step.1, 2 * step.2)
    if less value middle then some (ofGrid below unit)
    else if less middle value then some (ofGrid (below + 1) unit)
    else some (ofGrid (below + below % 2) unit)
  else if hitsBelow then some (ofGrid below unit)
  else if hitsAbove then some (ofGrid (below + 1) unit)
  else none

-- The decimal with the fewest digits that reads back. Seventeen digits are always enough.
def shortest (mantissa : Nat) (exponent : Int) : Decimal :=
  let value := Binary64.ratio mantissa exponent
  let leading := leadingExponent value
  let interval := Interval.around mantissa exponent
  let found := (List.range 17).findSome? fun (more : Nat) =>
    onGrid? interval value (leading - more)
  found.getD ⟨[], 0⟩

end Decimal

-- Where a text of a number uses an exponent, and how it writes it.
structure RealFormat where
  -- The exponents of the first digit for which all digits are written out.
  leastPositional : Int
  greatestPositional : Int
  plusSign : Bool

namespace RealFormat

def positional (decimal : Decimal) : List Char :=
  if decimal.point ≤ 0 then
    ['0', '.'] ++ List.replicate (-decimal.point).toNat '0' ++ decimal.digits
  else
    let whole := decimal.point.toNat
    if decimal.digits.length ≤ whole then
      decimal.digits ++ List.replicate (whole - decimal.digits.length) '0' ++ ['.', '0']
    else decimal.digits.take whole ++ ['.'] ++ decimal.digits.drop whole

def withExponent (format : RealFormat) (decimal : Decimal) : List Char :=
  let exponent := decimal.point - 1
  let mantissa := match decimal.digits with
    | first :: second :: rest => first :: '.' :: second :: rest
    | digits => digits
  let sign := if exponent < 0 then ['-'] else if format.plusSign then ['+'] else []
  mantissa ++ ['e'] ++ sign ++ Nat.toDigits 10 exponent.natAbs

def write (format : RealFormat) (x : Binary64) : String :=
  let size := match x with
    | .infinite _ => ['i', 'n', 'f']
    | .finite _ 0 _ => ['0', '.', '0']
    | .finite _ mantissa exponent =>
        let decimal := Decimal.shortest mantissa exponent
        if format.leastPositional ≤ decimal.point - 1 ∧
            decimal.point - 1 ≤ format.greatestPositional then positional decimal
        else format.withExponent decimal
  String.ofList (if x.isNegative then '-' :: size else size)

end RealFormat

end Finder
