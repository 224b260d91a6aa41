import GatewaySim.Number.Binary64

/-! # Shortest decimals

The decimal number with the fewest digits that reads back as a given binary64 number, and among
those the one nearest to it. With one digit, two digits and so on, the two neighbours of the number
on that decimal grid are tried; the first grid on which one of them reads back gives the answer.
-/

namespace GatewaySim

/-- The decimal number `digits · 10^exponent`. -/
structure Decimal where
  digits : Nat
  exponent : Int
  deriving DecidableEq, Repr

inductive TieRule where
  | upper
  | even
  deriving DecidableEq, Repr

namespace Decimal

/-- Drops zeros at the end of the digits; `fuel` bounds how many. -/
def trimFuel : Nat → Decimal → Decimal
  | 0, decimal => decimal
  | fuel + 1, decimal =>
    if decimal.digits ≠ 0 ∧ decimal.digits % 10 = 0 then
      trimFuel fuel ⟨decimal.digits / 10, decimal.exponent + 1⟩
    else decimal

def trim (decimal : Decimal) : Decimal := trimFuel decimal.digits.log2 decimal

/-- How often a positive count of units below one must be multiplied by ten to reach one. -/
def leadingZerosFuel : Nat → Nat → Nat
  | 0, _ => 0
  | fuel + 1, units =>
    if Binary64.unit ≤ units then 0 else leadingZerosFuel fuel (units * 10) + 1

def leadingExponent (units : Nat) : Int :=
  if Binary64.unit ≤ units then (Nat.toDigits 10 (units / Binary64.unit)).length - 1
  else -(leadingZerosFuel 330 units : Int)

/-- The decimals that read back as a positive count of units, measured in quarters of a unit: all
between the two bounds, which themselves belong to it if `closed`. -/
structure Span where
  lower : Nat
  upper : Nat
  closed : Bool

/-- The decimals that read back as a positive count of units: up to half the distance to either
neighbour. Below a power of two the neighbours lie twice as close. -/
def span (units : Nat) : Span :=
  let spare := Binary64.spareBits units
  let step := Nat.pow 2 spare
  let below := if 0 < spare ∧ units = Nat.pow 2 units.log2 then step else 2 * step
  ⟨4 * units - below, 4 * units + 2 * step, units / step % 2 = 0⟩

def Span.contains (span : Span) (scale point : Nat) : Bool :=
  let lower := span.lower * scale
  let upper := span.upper * scale
  if span.closed then lower ≤ point && point ≤ upper else lower < point && point < upper

/-- The best decimal with the given exponent that reads back as a positive count of units. -/
def onGrid? (tie : TieRule) (units : Nat) (exponent : Int) : Option Decimal :=
  let scale := if exponent < 0 then Nat.pow 10 exponent.natAbs else 1
  let step := 4 * Binary64.unit * (if exponent < 0 then 1 else Nat.pow 10 exponent.natAbs)
  let value := 4 * units * scale
  let low := value / step
  let high := low + 1
  let lowFits := (span units).contains scale (low * step)
  let highFits := (span units).contains scale (high * step)
  let down := value - low * step
  let up := high * step - value
  let takeHigh : Bool := match lowFits, highFits with
    | true, true =>
      down > up || (down == up && (tie == .upper || low % 2 == 1))
    | low, high => !low && high
  if takeHigh then some ⟨high, exponent⟩
  else if lowFits then some ⟨low, exponent⟩
  else none

/-- The shortest decimal that reads back as a count of units; seventeen digits always suffice. -/
def shortest (tie : TieRule) (units : Nat) : Decimal :=
  if units = 0 then ⟨0, 0⟩
  else
    let leading := leadingExponent units
    let tried := (List.range 17).findSome? fun (more : Nat) =>
      onGrid? tie units (leading - (more : Int))
    match tried with
    | some decimal => decimal.trim
    | none => ⟨0, 0⟩

end Decimal

end GatewaySim
