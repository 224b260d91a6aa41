import GatewaySim.Config.Value

/-! # Tables under construction

The tables of a TOML text are put together line by line. A table may be set up by a header of its
own, by the headers of its inner tables, or by dotted keys, and no table may be set up twice. So
each keeps a note of how it came about until the text has been read.
-/

namespace GatewaySim.Toml

open Config (Origin Value)

inductive Form where
  /-- By a header of its own. -/
  | header
  /-- By a header of a table inside it. -/
  | passed
  /-- By a dotted key. -/
  | dotted
  deriving DecidableEq, Repr

inductive Node where
  | value (value : Value)
  | table (form : Form) (entries : List (String × Node))
  /-- An array of tables, each with a header; the last one comes first. -/
  | tables (items : List (List (String × Node)))

abbrev Nodes := List (String × Node)

/-- A dotted key: the keys of the tables on the way, and the last key. -/
structure DottedKey where
  path : List String
  name : String
  deriving DecidableEq, Repr

namespace Nodes

def alter? (f : Option Node → Option Node) (key : String) : Nodes → Option Nodes
  | [] => (f none).map fun node => [(key, node)]
  | (other, node) :: rest =>
    if other = key then (f (some node)).map fun node => (other, node) :: rest
    else (alter? f key rest).map fun rest => (other, node) :: rest

/-- Changes a table at the end of a header's path. An array of tables on the way stands for its last
table. -/
def within? (f : Nodes → Option Nodes) : List String → Nodes → Option Nodes
  | [], nodes => f nodes
  | key :: path, nodes =>
    nodes.alter? (fun
      | none => (within? f path []).map (.table .passed)
      | some (.table form inner) => (within? f path inner).map (.table form)
      | some (.tables (last :: before)) =>
        (within? f path last).map fun last => .tables (last :: before)
      | some _ => none) key

def addTable? (key : DottedKey) (nodes : Nodes) : Option Nodes :=
  nodes.within? (alter? (fun
    | none => some (.table .header [])
    | some (.table .passed inner) => some (.table .header inner)
    | some _ => none) key.name) key.path

def addItem? (key : DottedKey) (nodes : Nodes) : Option Nodes :=
  nodes.within? (alter? (fun
    | none => some (.tables [[]])
    | some (.tables items) => some (.tables ([] :: items))
    | some _ => none) key.name) key.path

/-- Sets the value of a dotted key, given its path and its last key. A table on the way counts from
then on as set up by dotted keys, so it must not have a header of its own. The path may lead through
the last table of an array, but the value must not be set in that table itself. -/
def putAt? (value : Value) (name : String) : List String → Nodes → Option Nodes
  | [], nodes => nodes.alter? (fun
      | none => some (.value value)
      | some _ => none) name
  | key :: path, nodes =>
    nodes.alter? (fun
      | none => (putAt? value name path []).map (.table .dotted)
      | some (.table .dotted inner) => (putAt? value name path inner).map (.table .dotted)
      | some (.table .passed inner) => (putAt? value name path inner).map (.table .dotted)
      | some (.tables (last :: before)) =>
        if path.isEmpty then none
        else (putAt? value name path last).map fun last => .tables (last :: before)
      | some _ => none) key

def put? (key : DottedKey) (value : Value) (nodes : Nodes) : Option Nodes :=
  nodes.putAt? value key.name key.path

end Nodes

mutual

def Node.finish (origin : Option Origin) : Node → Value
  | .value value => value
  | .table _ entries => .table origin (finishEntries origin entries)
  | .tables items => .array origin (finishItems origin items).reverse

def finishEntries (origin : Option Origin) : List (String × Node) → Config.Entries
  | [] => []
  | (key, node) :: rest => (key, node.finish origin) :: finishEntries origin rest

def finishItems (origin : Option Origin) : List (List (String × Node)) → List Value
  | [] => []
  | entries :: rest => .table origin (finishEntries origin entries) :: finishItems origin rest

end

end GatewaySim.Toml
