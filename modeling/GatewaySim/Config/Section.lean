import GatewaySim.Config.Query

/-! # Parts of a configuration

A table in a configuration can serve as a configuration of its own. Its keys are then taken as paths
again, so one that is no path spoils the whole part. Keys that are written differently may denote
one path; of their entries only the last one counts.
-/

namespace GatewaySim.Config

/-- What is to be set at which paths, with one value for each path. -/
abbrev Overrides := List (Path × Value)

namespace Overrides

/-- Notes the value to be set at a path, in the place of one that is noted for it already. -/
def note (overrides : Overrides) (path : Path) (value : Value) : Overrides :=
  match overrides with
  | [] => [(path, value)]
  | (other, noted) :: rest =>
    if other = path then (path, value) :: rest else (other, noted) :: note rest path value

/-- Notes the value of an entry at the path that its key denotes. A key that is no path is an
error. -/
def noteEntry (overrides : Overrides) (entry : String × Value) : Except Error Overrides :=
  match Path.ofText? entry.1 with
  | none => .error .badPath
  | some path => .ok (note overrides path entry.2)

def ofEntries (entries : Entries) : Except Error Overrides := entries.foldlM noteEntry []

end Overrides

def setAll (config : Config) (overrides : Overrides) : Config :=
  overrides.foldl (fun current override => current.set override.1 override.2) config

/-- The configuration of the entries of a table, visited in the order of the list. Nothing fixes the
order in which a table is visited: what is true of it is true of its entries in every order. A key
that is no path is an error. -/
def ofEntries (entries : Entries) : Except Error Config :=
  (Overrides.ofEntries entries).map (setAll {})

def part? (config : Config) (key : String) : Except Error Config :=
  match config.getTable key with
  | .error e => .error e
  | .ok entries => ofEntries entries

/-- The table at a path as a configuration; an empty one if there is none that can serve as one. -/
def part (config : Config) (key : String) : Config :=
  match config.part? key with
  | .ok part => part
  | .error _ => {}

end GatewaySim.Config
