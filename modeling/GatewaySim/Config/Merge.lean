import GatewaySim.Config.Path

/-! # Looking up and changing values

`Value.follow` finds the value at the end of a path's steps, and `Value.change` changes it, making
room on the way: what is not a table where a key is asked for becomes an empty table, what is not an
array where a position is asked for becomes an empty array, and arrays are filled up with `nil`.
`Value.merge` lays one value over another: tables entry by entry, anything else by replacement.
-/

namespace GatewaySim.Config

/-- The place that a position denotes in an array of the given length, if there is one. -/
def place? (length : Nat) (position : Int) : Option Nat :=
  let place := if position < 0 then length + position else position
  if 0 ≤ place ∧ place < length then some place.toNat else none

namespace Value

def step? (value : Value) : Step → Option Value
  | .key name => value.entries.get? name
  | .index position => (place? value.items.length position).bind fun place => value.items[place]?

def follow (value : Value) (steps : List Step) : Option Value := steps.foldlM step? value

/-- Changes the item at a position. The array is filled up with `nil`: at its end for a position
beyond it, at its front for a negative position that reaches further back than its start. -/
def changeItem (items : List Value) (position : Int) (f : Value → Value) : List Value :=
  if position < 0 then
    let missing := position.natAbs - items.length
    let filled := List.replicate missing nil ++ items
    filled.modify (filled.length - position.natAbs) f
  else
    let missing := position.natAbs + 1 - items.length
    (items ++ List.replicate missing nil).modify position.natAbs f

def change (f : Value → Value) : List Step → Value → Value
  | [], value => f value
  | .key name :: steps, .table origin entries =>
    .table origin (Entries.change entries name (change f steps))
  | .key name :: steps, _ => .table none (Entries.change [] name (change f steps))
  | .index position :: steps, .array origin items =>
    .array origin (changeItem items position (change f steps))
  | .index position :: steps, _ => .array none (changeItem [] position (change f steps))

mutual

def merge : Value → Value → Value
  | .table _ entries, under => mergeEntries entries under.asTable
  | value, _ => value

def mergeEntries : List (String × Value) → Value → Value
  | [], under => under
  | (key, value) :: rest, under =>
    mergeEntries rest (change (fun old => merge value old) [.key key] under)

end

end Value

end GatewaySim.Config

namespace GatewaySim

/-- A configuration: the entries of its root table. -/
structure Config where
  root : Config.Value := .table none []

namespace Config

def value? (config : Config) (path : Path) : Option Value :=
  config.root.follow (.key path.root :: path.steps)

def set (config : Config) (path : Path) (value : Value) : Config :=
  ⟨config.root.change (fun old => value.merge old) (.key path.root :: path.steps)⟩

/-- Lays the entries of a source over a configuration. Their keys are taken as paths where they
denote one. -/
def addEntries (config : Config) (entries : Entries) : Config :=
  entries.foldl (fun current entry => current.set (Path.ofKey entry.1) entry.2) config

end Config

end GatewaySim
