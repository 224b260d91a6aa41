import GatewaySim.Bus.Module

/-! # Modules given by a table of rules

A module need not be programmed: a table says for each rule which fields a message must and must
not have, which texts it must hold, and what is derived from it. `RuleTable.toModule` turns such a
table into a module for the bus.
-/

namespace GatewaySim

/-- How a message is derived: from a copy of the received one or from the empty one, by setting
fields and then removing some. -/
structure Derivation where
  fromEmpty : Bool := false
  set : List (Field × String) := []
  remove : List Field := []
  deriving DecidableEq, Repr

namespace Derivation

def apply (derivation : Derivation) (received : Message) : Message :=
  let base := if derivation.fromEmpty then Message.empty else received
  let written := derivation.set.foldl (fun m entry => m.set entry.1 entry.2) base
  derivation.remove.foldl Message.erase written

end Derivation

structure RuleLine where
  label : String
  has : List Field := []
  lacks : List Field := []
  holds : List (Field × String) := []
  /-- What is republished; a line without a derivation only reports. -/
  derivation : Option Derivation := none
  deriving DecidableEq, Repr

namespace RuleLine

def accepts (line : RuleLine) (m : Message) : Bool :=
  line.has.all m.has && line.lacks.all (fun field => !m.has field) &&
    line.holds.all (fun entry => m.holds entry.1 entry.2)

def react (line : RuleLine) (m : Message) : Option Reaction :=
  if line.accepts m then
    some ⟨line.label, line.derivation.map fun derivation => derivation.apply m⟩
  else none

end RuleLine

structure RuleTable where
  name : String
  description : String := ""
  lines : List RuleLine
  deriving DecidableEq, Repr

namespace RuleTable

/-- The table as a module: the lines react in order. -/
def toModule (table : RuleTable) : Module where
  name := table.name
  description := table.description
  receive m := table.lines.filterMap fun line => line.react m

end RuleTable

end GatewaySim
