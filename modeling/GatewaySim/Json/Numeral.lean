import GatewaySim.Json.Parts

/-! # Reading numerals

A numeral has a whole part without needless zeros, and may have a fraction and an exponent, each
with at least one digit. Whole numerals of at most 64 bits stand for integers. Any other numeral
stands for a floating point number: as many of its digits as fit into 64 bits are taken as an
integer, converted, and multiplied with or divided by a power of ten, so the result need not be the
nearest one. A numeral beyond the finite numbers is refused.
-/

namespace GatewaySim.Json

inductive Number where
  | integer (value : Int)
  | real (value : Binary64)
  deriving DecidableEq, Repr

/-- The parts of a numeral: its digits before and behind the point, and its exponent. -/
structure Numeral where
  whole : List Char
  fraction : List Char := []
  exponent : Option Int := none
  deriving DecidableEq, Repr

namespace Numeral

def greatestWord : Nat := 18446744073709551615

def greatestExponent : Nat := 2147483647

/-- Appends digits to an integer as long as the result has at most 64 bits; gives the integer and
the digits from the first one on that does not fit. -/
def absorb (value : Nat) : List Char → Nat × List Char
  | [] => (value, [])
  | c :: rest =>
    let longer := 10 * value + (c.toNat - 48)
    if greatestWord < longer then (value, c :: rest) else absorb longer rest

def powerOfTen (exponent : Nat) : Nat := (Binary64.decimalUnits 1 exponent).getD 0

/-- Multiplies a floating point number with a power of ten, or divides it by one, in steps that are
each rounded; `none` if the result is too large. -/
def scale (units : Nat) (exponent : Int) : Option Nat :=
  if 0 ≤ exponent then
    if exponent ≤ 308 then Binary64.mulUnits units (powerOfTen exponent.natAbs)
    else if units = 0 then some 0
    else none
  else if exponent < -308 then
    if units = 0 then some 0
    else scale ((Binary64.divUnits units (powerOfTen 308)).getD 0) (exponent + 308)
  else Binary64.divUnits units (powerOfTen exponent.natAbs)
termination_by exponent.natAbs
decreasing_by omega

def real (negative : Bool) (value : Nat) (exponent : Int) : Except ReadError Number :=
  match scale ((Binary64.roundUnits value 1).getD 0) exponent with
  | some units => .ok (.real (.finite negative units))
  | none => .error .numberOutOfRange

def value (negative : Bool) (numeral : Numeral) : Except ReadError Number :=
  let (whole, dropped) := absorb 0 numeral.whole
  if numeral.fraction.isEmpty && numeral.exponent.isNone then
    if !dropped.isEmpty then real negative whole dropped.length
    else if !negative then .ok (.integer whole)
    else if whole = 0 ∨ 9223372036854775808 < whole then real true whole 0
    else .ok (.integer (-whole))
  else
    let (digits, ignored) := absorb whole numeral.fraction
    let places : Int := numeral.fraction.length - ignored.length
    let written := numeral.exponent.getD 0
    if greatestExponent < written.natAbs then
      if digits ≠ 0 ∧ 0 < written then .error .numberOutOfRange
      else .ok (.real (.finite negative 0))
    else real negative digits (dropped.length - places + written)

end Numeral

def splitDigits (text : List Char) : List Char × List Char :=
  (text.takeWhile Char.isDigit, text.dropWhile Char.isDigit)

theorem splitDigits_length_le (text : List Char) :
    (splitDigits text).2.length ≤ text.length :=
  length_dropWhile_le _ text

def missingDigit (text : List Char) : ReadError :=
  if text.isEmpty then .endInValue else .invalidNumber

/-- Reads the whole part of a numeral: a lone zero, or digits of which the first is not zero. -/
def readWhole (text : List Char) : Except ReadError (List Char × List Char) :=
  let (digits, rest) := splitDigits text
  match digits with
  | [] => .error (missingDigit text)
  | '0' :: _ :: _ => .error .invalidNumber
  | _ => .ok (digits, rest)

def readFraction (text : List Char) : Except ReadError (List Char × List Char) :=
  match text with
  | '.' :: behind =>
    let (digits, rest) := splitDigits behind
    if digits.isEmpty then .error (missingDigit behind) else .ok (digits, rest)
  | _ => .ok ([], text)

def readExponentSign : List Char → Bool × List Char
  | '-' :: rest => (true, rest)
  | '+' :: rest => (false, rest)
  | text => (false, text)

def readExponent (text : List Char) : Except ReadError (Option Int × List Char) :=
  match text with
  | [] => .ok (none, [])
  | c :: behind =>
    if c = 'e' ∨ c = 'E' then
      let (negative, unsigned) := readExponentSign behind
      let (digits, rest) := splitDigits unsigned
      if digits.isEmpty then .error (missingDigit unsigned)
      else
        let size : Int := Nat.ofDigitChars 10 digits 0
        .ok (some (if negative then -size else size), rest)
    else .ok (none, text)

def readNumeral (text : List Char) : Except ReadError (Numeral × List Char) :=
  match readWhole text with
  | .error e => .error e
  | .ok (whole, rest) =>
    match readFraction rest with
    | .error e => .error e
    | .ok (fraction, rest) =>
      match readExponent rest with
      | .error e => .error e
      | .ok (exponent, rest) => .ok (⟨whole, fraction, exponent⟩, rest)

def readNumber (negative : Bool) (text : List Char) : Except ReadError (Number × List Char) :=
  match readNumeral text with
  | .error e => .error e
  | .ok (numeral, rest) =>
    match numeral.value negative with
    | .error e => .error e
    | .ok number => .ok (number, rest)

def skipNumeral (text : List Char) : Except ReadError (List Char) :=
  match readNumeral text with
  | .error _ => .error .invalidNumber
  | .ok (_, rest) => .ok rest

theorem readExponentSign_length_le (text : List Char) :
    (readExponentSign text).2.length ≤ text.length := by
  unfold readExponentSign
  split
  next => exact Nat.le_succ _
  next => exact Nat.le_succ _
  next => exact Nat.le_refl _

theorem readWhole_length_lt {text digits rest : List Char}
    (h : readWhole text = .ok (digits, rest)) : rest.length < text.length := by
  unfold readWhole splitDigits at h
  cases text with
  | nil => cases h
  | cons c text =>
    by_cases digit : c.isDigit
    · have le := splitDigits_length_le text
      unfold splitDigits at le
      simp only [List.takeWhile_cons, List.dropWhile_cons, digit, if_true] at h
      split at h
      next => cases h
      next => cases h
      next =>
        cases h
        exact Nat.lt_succ_of_le le
    · simp only [List.takeWhile_cons, digit] at h
      cases h

theorem readFraction_length_le {text digits rest : List Char}
    (h : readFraction text = .ok (digits, rest)) : rest.length ≤ text.length := by
  unfold readFraction at h
  split at h
  next behind =>
    have le := splitDigits_length_le behind
    dsimp only at h
    split at h
    next => cases h
    next =>
      cases h
      exact Nat.le_succ_of_le le
  next =>
    cases h
    exact Nat.le_refl _

theorem readExponent_length_le {text rest : List Char} {exponent : Option Int}
    (h : readExponent text = .ok (exponent, rest)) : rest.length ≤ text.length := by
  unfold readExponent at h
  split at h
  next =>
    cases h
    exact Nat.le_refl _
  next c behind =>
    have le := splitDigits_length_le (readExponentSign behind).2
    have sign := readExponentSign_length_le behind
    split at h
    next =>
      dsimp only at h
      split at h
      next => cases h
      next =>
        cases h
        exact Nat.le_succ_of_le (Nat.le_trans le sign)
    next =>
      cases h
      exact Nat.le_refl _

theorem readNumeral_length_lt {text rest : List Char} {numeral : Numeral}
    (h : readNumeral text = .ok (numeral, rest)) : rest.length < text.length := by
  unfold readNumeral at h
  split at h
  next => cases h
  next whole =>
    split at h
    next => cases h
    next fraction =>
      split at h
      next => cases h
      next exponent =>
        cases h
        have := readWhole_length_lt whole
        have := readFraction_length_le fraction
        have := readExponent_length_le exponent
        omega

theorem readNumber_length_lt {negative : Bool} {text rest : List Char} {number : Number}
    (h : readNumber negative text = .ok (number, rest)) : rest.length < text.length := by
  unfold readNumber at h
  split at h
  next => cases h
  next read =>
    split at h
    next => cases h
    next =>
      cases h
      exact readNumeral_length_lt read

theorem skipNumeral_length_lt {text rest : List Char} (h : skipNumeral text = .ok rest) :
    rest.length < text.length := by
  unfold skipNumeral at h
  split at h
  next => cases h
  next read =>
    cases h
    exact readNumeral_length_lt read

end GatewaySim.Json
