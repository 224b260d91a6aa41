import GatewaySim.Config.Query

/-! # Configuration from the environment

A variable whose name begins with `gateway_` in lower case is an entry of the configuration. The
rest of its lower-case name is the key, and its value a text.
-/

namespace GatewaySim.Config.Environment

def opening : List Char := "gateway_".toList

def key? (name : String) : Option String :=
  let lowered := (Text.lower name).toList
  if opening.isPrefixOf lowered then some (String.ofList (lowered.drop opening.length)) else none

def read (pairs : List (String × String)) : Entries :=
  pairs.foldl (fun entries (name, value) =>
    match key? name with
    | some key => entries.put key (.scalar (some .environment) (.text value))
    | none => entries) []

end GatewaySim.Config.Environment
