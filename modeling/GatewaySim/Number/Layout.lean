import GatewaySim.Number.Shortest

/-! # Written floating point numbers

A number is written with its shortest digits, either positionally or with an exponent. What differs
between uses is gathered in a `NumberLayout`: which way ties go, from which exponents on the second
form is used, and whether a whole number shows a decimal point.
-/

namespace GatewaySim

structure NumberLayout where
  tie : TieRule
  /-- The least and the greatest exponent of the first digit for which the number is written
  positionally; all exponents if absent. -/
  positional : Option (Int × Int)
  /-- Whether a whole number that is written positionally ends in a point and a zero. -/
  pointZero : Bool

namespace NumberLayout

def positionalDigits (pointZero : Bool) (digits : List Char) (exponent : Int) : List Char :=
  let whole := digits.length + exponent
  if 0 ≤ exponent then
    digits ++ List.replicate exponent.natAbs '0' ++ (if pointZero then ['.', '0'] else [])
  else if 0 < whole then
    digits.take whole.natAbs ++ '.' :: digits.drop whole.natAbs
  else '0' :: '.' :: (List.replicate whole.natAbs '0' ++ digits)

def exponentDigits (digits : List Char) (leading : Int) : List Char :=
  let fraction := digits.drop 1
  digits.take 1 ++ (if fraction.isEmpty then [] else '.' :: fraction) ++
    'e' :: (if leading < 0 then '-' else '+') :: Nat.toDigits 10 leading.natAbs

def unsignedText (layout : NumberLayout) (units : Nat) : List Char :=
  let decimal := Decimal.shortest layout.tie units
  let digits := Nat.toDigits 10 decimal.digits
  let leading := digits.length + decimal.exponent - 1
  let inRange := match layout.positional with
    | none => true
    | some (least, greatest) => least ≤ leading && leading ≤ greatest
  if inRange then positionalDigits layout.pointZero digits decimal.exponent
  else exponentDigits digits leading

def text (layout : NumberLayout) : Binary64 → String
  | .finite negative units =>
    String.ofList ((if negative then ['-'] else []) ++ layout.unsignedText units)
  | .infinite negative => if negative then "-inf" else "inf"
  | .nan => "NaN"

/-- Positional at all sizes, without a point in whole numbers; ties go up. -/
def plain : NumberLayout := ⟨.upper, none, false⟩

/-- Positional from five places after the point to sixteen before it, with a point in whole numbers;
ties go to the even digit. -/
def general : NumberLayout := ⟨.even, some (-5, 15), true⟩

end NumberLayout

end GatewaySim
