import GatewaySim.Config.Merge
import GatewaySim.Number.Layout
import GatewaySim.Text.LowerCase
import GatewaySim.Text.Quotation

/-! # Asking a configuration

A configuration is asked for a value of some kind at a path. Single values are converted: numbers
and booleans into each other and into texts, and texts that spell a number or a boolean into what
they spell. What cannot be converted is an error, which says what was found and what was expected.
-/

namespace GatewaySim.Config

inductive Found where
  | scalar (content : Scalar)
  | sequence
  | map
  deriving DecidableEq, Repr

/-- The written form of a single value in a configuration; `nil` has none. -/
def Scalar.text? : Scalar → Option String
  | .nil => none
  | .boolean value => some (if value then "true" else "false")
  | .integer value => some (toString value)
  | .real value => some (NumberLayout.plain.text value)
  | .text value => some value

def Found.description : Found → String
  | .sequence => "sequence"
  | .map => "map"
  | .scalar .nil => "unit value"
  | .scalar (.boolean value) => "boolean `" ++ (if value then "true" else "false") ++ "`"
  | .scalar (.integer value) =>
    (if value ≤ Signed64.greatest then "64-bit integer `" else "64-bit unsigned integer `")
      ++ toString value ++ "`"
  | .scalar (.real value) => "floating point `" ++ NumberLayout.plain.text value ++ "`"
  | .scalar (.text value) => "string " ++ Text.quote value

def Value.found : Value → Found
  | .scalar _ content => .scalar content
  | .array .. => .sequence
  | .table .. => .map

inductive Expected where
  | integer
  /-- An integer that must not exceed the signed ones of 64 bits. -/
  | signedInteger
  | boolean
  | text
  | table
  | array
  deriving DecidableEq, Repr

def Expected.description : Expected → String
  | .integer => "an integer"
  | .signedInteger => "an signed 64 bit or less integer"
  | .boolean => "a boolean"
  | .text => "a string"
  | .table => "a map"
  | .array => "an array"

structure Mismatch where
  found : Found
  expected : Expected
  /-- The key that was asked for, if the value was looked up. -/
  key : Option String := none
  /-- Where the value was read, if that is known. -/
  origin : Option Origin := none
  deriving DecidableEq, Repr

def Mismatch.message (mismatch : Mismatch) : String :=
  "invalid type: " ++ mismatch.found.description ++ ", expected " ++ mismatch.expected.description
    ++ (match mismatch.key with
      | some key => " for key `" ++ key ++ "`"
      | none => "")
    ++ (match mismatch.origin with
      | some origin => " in " ++ origin.name
      | none => "")

inductive Error where
  /-- A key is not a path. -/
  | badPath
  /-- Nothing is set at the path. -/
  | missing (key : String)
  /-- What is set at the path is of another kind. -/
  | wrongKind (mismatch : Mismatch)
  /-- The text of a source cannot be read, or holds no table. -/
  | malformed
  deriving DecidableEq, Repr

def Mismatch.withKey (key : String) (mismatch : Mismatch) : Mismatch :=
  { mismatch with key := some key }

namespace Value

def mismatch (value : Value) (expected : Expected) : Mismatch :=
  { found := value.found, expected, origin := value.origin }

def trueWords : List String := ["true", "on", "yes"]

def falseWords : List String := ["false", "off", "no"]

/-- Reads decimal digits with an optional sign as a signed integer of 64 bits. -/
def integerOf? (text : List Char) : Option Int :=
  let (sign, digits) : Int × List Char := match text with
    | '-' :: digits => (-1, digits)
    | '+' :: digits => (1, digits)
    | digits => (1, digits)
  if digits.isEmpty || !digits.all Char.isDigit then none
  else
    let value := sign * Nat.ofDigitChars 10 digits 0
    if Signed64.fits value then some value else none

def toInteger (value : Value) : Except Mismatch Int :=
  match value with
  | .scalar _ (.integer number) =>
    if number ≤ Signed64.greatest then .ok number
    else .error (value.mismatch .signedInteger)
  | .scalar _ (.boolean flag) => .ok (if flag then 1 else 0)
  | .scalar _ (.real number) => .ok number.toInteger
  | .scalar _ (.text text) =>
    let lowered := Text.lower text
    if lowered ∈ trueWords then .ok 1
    else if lowered ∈ falseWords then .ok 0
    else
      match integerOf? lowered.toList with
      | some number => .ok number
      | none => .error (value.mismatch .integer)
  | _ => .error (value.mismatch .integer)

def toBoolean (value : Value) : Except Mismatch Bool :=
  match value with
  | .scalar _ (.boolean flag) => .ok flag
  | .scalar _ (.integer number) => .ok (number ≠ 0)
  | .scalar _ (.real number) => .ok !number.isZero
  | .scalar origin (.text text) =>
    let lowered := Text.lower text
    if lowered = "1" ∨ lowered ∈ trueWords then .ok true
    else if lowered = "0" ∨ lowered ∈ falseWords then .ok false
    else .error ((Value.scalar origin (.text lowered)).mismatch .boolean)
  | _ => .error (value.mismatch .boolean)

def toText (value : Value) : Except Mismatch String :=
  match value with
  | .scalar _ content =>
    match content.text? with
    | some text => .ok text
    | none => .error (value.mismatch .text)
  | _ => .error (value.mismatch .text)

def toTable (value : Value) : Except Mismatch Entries :=
  match value with
  | .table _ entries => .ok entries
  | _ => .error (value.mismatch .table)

def toArray (value : Value) : Except Mismatch (List Value) :=
  match value with
  | .array _ items => .ok items
  | _ => .error (value.mismatch .array)

end Value

def get {α : Type} (config : Config) (convert : Value → Except Mismatch α) (key : String) :
    Except Error α :=
  match Path.ofText? key with
  | none => .error .badPath
  | some path =>
    match config.value? path with
    | none => .error (.missing key)
    | some value => (convert value).mapError fun mismatch => .wrongKind (mismatch.withKey key)

def getInteger (config : Config) (key : String) : Except Error Int := config.get Value.toInteger key

def getBoolean (config : Config) (key : String) : Except Error Bool :=
  config.get Value.toBoolean key

def getText (config : Config) (key : String) : Except Error String := config.get Value.toText key

def getTable (config : Config) (key : String) : Except Error Entries := config.get Value.toTable key

def getArray (config : Config) (key : String) : Except Error (List Value) :=
  config.get Value.toArray key

def Error.message : Error → String
  | .badPath => "invalid path"
  | .missing key => "missing configuration field " ++ Text.quote key
  | .wrongKind mismatch => mismatch.message
  | .malformed => "malformed configuration"

end GatewaySim.Config
