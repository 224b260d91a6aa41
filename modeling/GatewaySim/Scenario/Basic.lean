import GatewaySim.Message.Basic

/-! # Scenarios

A scenario is a named seed: a message and the module that publishes it. Its slug is a form of the
name that is safe in a file name: letters and digits in lower case, with one dash for every run of
other characters between them.
-/

namespace GatewaySim

/-- A seed message, the name of the module that publishes it, and a title. -/
structure Scenario where
  name : String
  sender : String
  message : Message
  deriving DecidableEq, Repr

namespace Scenario

def isSlugChar (c : Char) : Bool := c.isAlphanum

/-- The slug of a name, read from left to right; `gap` says whether characters have been left out
since the last one kept, and `started` whether any has been kept. -/
def slugFrom (started gap : Bool) : List Char → List Char
  | [] => []
  | c :: rest =>
    if isSlugChar c then
      if started && gap then '-' :: c.toLower :: slugFrom true false rest
      else c.toLower :: slugFrom true false rest
    else slugFrom started true rest

def slugOf (name : String) : String := String.ofList (slugFrom false false name.toList)

def slug (scenario : Scenario) : String := slugOf scenario.name

end Scenario

end GatewaySim
