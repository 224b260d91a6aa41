import GatewaySim.Config.Value
import GatewaySim.Text.Hexadecimal

/-! # Unquoted values in TOML

Booleans, integers and floating point numbers. Digits may be grouped by single underscores. Integers
have signed 64 bits and may be written in base sixteen, eight or two; floating point numbers are
rounded to the nearest binary64 number, and must not round to an infinite one.
-/

namespace GatewaySim.Toml

open Config (Scalar)

def isWordChar (c : Char) : Bool := c.isAlphanum || c = '_' || c = '-' || c = '+' || c = '.'

/-- The digits of a numeral, which single underscores between them may group. -/
def digits? (isDigit : Char → Bool) : List Char → Option (List Char)
  | [] => none
  | [c] => if isDigit c then some [c] else none
  | c :: '_' :: rest => if isDigit c then (digits? isDigit rest).map (c :: ·) else none
  | c :: rest => if isDigit c then (digits? isDigit rest).map (c :: ·) else none

/-- The decimal digits of a whole number: a zero comes first only if it stands alone. -/
def whole? (text : List Char) : Option (List Char) :=
  match digits? Char.isDigit text with
  | some ('0' :: _ :: _) => none
  | digits => digits

def radixValue (base : Nat) (digits : List Char) : Nat :=
  digits.foldl (fun value c => base * value + (Text.hexValue? c).getD 0) 0

def fitting? (value : Int) : Option Scalar :=
  if Signed64.fits value then some (.integer value) else none

def radixInteger? (base : Nat) (text : List Char) : Option Scalar :=
  let isDigit : Char → Bool := fun c =>
    match Text.hexValue? c with
    | some value => value < base
    | none => false
  (digits? isDigit text).bind fun digits => fitting? (radixValue base digits)

def splitSign (text : List Char) : Bool × List Char :=
  match text with
  | '-' :: rest => (true, rest)
  | '+' :: rest => (false, rest)
  | _ => (false, text)

def isGroupChar (c : Char) : Bool := c.isDigit || c = '_'

/-- An exponent with its mark; nothing stands for zero. -/
def exponent? (text : List Char) : Option Int :=
  match text with
  | [] => some 0
  | c :: rest =>
    if c = 'e' ∨ c = 'E' then
      let (negative, unsigned) := splitSign rest
      (digits? Char.isDigit unsigned).map fun digits =>
        let size : Int := radixValue 10 digits
        if negative then -size else size
    else none

/-- The fraction behind the point of a numeral, and what follows it. Without a point it is empty. -/
def fraction? (text : List Char) : Option (List Char × List Char) :=
  match text with
  | '.' :: rest =>
    (digits? Char.isDigit (rest.takeWhile isGroupChar)).map fun digits =>
      (digits, rest.dropWhile isGroupChar)
  | _ => some ([], text)

def real? (negative : Bool) (whole fraction : List Char) (exponent : Int) : Option Scalar :=
  (Binary64.decimalUnits (radixValue 10 (whole ++ fraction)) (exponent - fraction.length)).map
    fun units => .real (.finite negative units)

def decimal? (negative : Bool) (text : List Char) : Option Scalar := do
  let whole ← whole? (text.takeWhile isGroupChar)
  let rest := text.dropWhile isGroupChar
  if rest.isEmpty then
    let size : Int := radixValue 10 whole
    fitting? (if negative then -size else size)
  else
    let (fraction, behind) ← fraction? rest
    let exponent ← exponent? behind
    real? negative whole fraction exponent

def scalar? (word : List Char) : Option Scalar :=
  match word with
  | ['t', 'r', 'u', 'e'] => some (.boolean true)
  | ['f', 'a', 'l', 's', 'e'] => some (.boolean false)
  | '0' :: 'x' :: digits => radixInteger? 16 digits
  | '0' :: 'o' :: digits => radixInteger? 8 digits
  | '0' :: 'b' :: digits => radixInteger? 2 digits
  | _ =>
    let (negative, unsigned) := splitSign word
    match unsigned with
    | ['i', 'n', 'f'] => some (.real (.infinite negative))
    | ['n', 'a', 'n'] => some (.real .nan)
    | _ => decimal? negative unsigned

end GatewaySim.Toml
