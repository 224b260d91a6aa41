import GatewaySim.Number.Signed64

/-! # Binary floating point numbers

The numbers of the IEEE 754 binary64 format, counted in units of 2^-1074, the smallest positive one.
A finite number has at most 53 significant bits and lies below 2^1024; rounding goes to the nearest
such number, and half-way cases to the one whose last bit is even. All arithmetic is exact
arithmetic on natural numbers followed by one rounding.
-/

namespace GatewaySim

inductive Binary64 where
  /-- The number `units · 2^-1074`, or its negation; zero has two signs. -/
  | finite (negative : Bool) (units : Nat)
  | infinite (negative : Bool)
  | nan
  deriving DecidableEq, Repr

/-- The natural number nearest to a quotient; half-way cases go to the even neighbour. -/
def roundQuotient (numerator denominator : Nat) : Nat :=
  let quotient := numerator / denominator
  let twice := 2 * (numerator % denominator)
  if twice < denominator then quotient
  else if denominator < twice then quotient + 1
  else if quotient % 2 = 0 then quotient else quotient + 1

namespace Binary64

def unit : Nat := Nat.pow 2 1074

/-- The number of units from which on numbers are no longer finite. -/
def overflow : Nat := Nat.pow 2 2098

/-- How many of the low bits of a count of units lie beyond the 53 significant ones. -/
def spareBits (units : Nat) : Nat := units.log2 + 1 - 53

/-- The units of the finite number nearest to a quotient; `none` beyond the finite numbers. -/
def roundUnits (numerator denominator : Nat) : Option Nat :=
  let spare := spareBits (numerator * unit / denominator)
  let step := Nat.pow 2 spare
  let rounded := roundQuotient (numerator * unit) (denominator * step) * step
  if rounded < overflow then some rounded else none

def mulUnits (a b : Nat) : Option Nat := roundUnits (a * b) (unit * unit)

def divUnits (a b : Nat) : Option Nat := roundUnits a b

/-- The units of the number nearest to `digits · 10^exponent`. Exponents far outside the range of
the format are settled without computing the power. -/
def decimalUnits (digits : Nat) (exponent : Int) : Option Nat :=
  if digits = 0 then some 0
  else
    let places := (digits.log2 : Int) / 4 + exponent
    if places > 400 then none
    else if (digits.log2 : Int) + exponent < -400 then some 0
    else if exponent < 0 then roundUnits digits (Nat.pow 10 exponent.natAbs)
    else roundUnits (digits * Nat.pow 10 exponent.natAbs) 1

def isZero : Binary64 → Bool
  | .finite _ units => units = 0
  | _ => false

/-- The nearest integer, half-way cases away from zero, held within 64 bits; zero if the argument is
not a number. -/
def toInteger : Binary64 → Int
  | .finite negative units =>
    let rounded : Int := (2 * units + unit) / (2 * unit)
    if negative then max Signed64.least (-rounded) else min Signed64.greatest rounded
  | .infinite negative => if negative then Signed64.least else Signed64.greatest
  | .nan => 0

end Binary64

end GatewaySim
