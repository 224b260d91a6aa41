import GatewaySim.Number.Binary64

/-! # Configuration values

What a configuration is made of: single values, arrays and tables, each with a note where it came
from. A table keeps its entries in the order in which their keys were first set; `put` replaces the
value of a key in place, so keys stay unique.
-/

namespace GatewaySim.Config

inductive Origin where
  | file (name : String)
  | environment
  deriving DecidableEq, Repr

def Origin.name : Origin → String
  | .file name => name
  | .environment => "the environment"

inductive Scalar where
  | nil
  | boolean (value : Bool)
  | integer (value : Int)
  | real (value : Binary64)
  | text (value : String)
  deriving DecidableEq, Repr

/-- A configuration value and its origin, if known. -/
inductive Value where
  | scalar (origin : Option Origin) (content : Scalar)
  | array (origin : Option Origin) (items : List Value)
  | table (origin : Option Origin) (entries : List (String × Value))

abbrev Entries := List (String × Value)

namespace Value

/-- The value of something that has not been set. -/
def nil : Value := .scalar none .nil

def origin : Value → Option Origin
  | .scalar origin _ | .array origin _ | .table origin _ => origin

def entries : Value → Entries
  | .table _ entries => entries
  | _ => []

def items : Value → List Value
  | .array _ items => items
  | _ => []

/-- The value as a table: itself, or an empty table of no origin in its place. -/
def asTable : Value → Value
  | .table origin entries => .table origin entries
  | _ => .table none []

end Value

namespace Entries

def get? (entries : Entries) (key : String) : Option Value :=
  match entries with
  | [] => none
  | (other, value) :: rest => if other = key then some value else get? rest key

/-- Changes the value of a key; a key that is missing is added with what becomes of `nil`. -/
def change (entries : Entries) (key : String) (f : Value → Value) : Entries :=
  match entries with
  | [] => [(key, f .nil)]
  | (other, value) :: rest =>
    if other = key then (other, f value) :: rest else (other, value) :: change rest key f

def put (entries : Entries) (key : String) (value : Value) : Entries :=
  change entries key fun _ => value

theorem get?_change (entries : Entries) (key other : String) (f : Value → Value) :
    (entries.change key f).get? other =
      if other = key then some (f ((entries.get? key).getD .nil)) else entries.get? other := by
  induction entries with
  | nil =>
    by_cases same : other = key
    · subst same
      simp [change, get?]
    · simp [change, get?, same, Ne.symm same]
  | cons entry rest ih =>
    obtain ⟨name, value⟩ := entry
    by_cases here : name = key
    · subst here
      by_cases same : other = name
      · subst same
        simp [change, get?]
      · simp [change, get?, same, Ne.symm same]
    · by_cases same : name = other
      · subst same
        simp [change, get?, here]
      · simp [change, get?, here, same, ih]

end Entries

end GatewaySim.Config
