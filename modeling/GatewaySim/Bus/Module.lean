import GatewaySim.Message.Basic

/-! # Modules

What a module on the bus is: a name, a description, and a reaction to each message it is offered.
A reaction either reports that a rule matched or also republishes a derived message.
-/

namespace GatewaySim

/-- What a module does with a message it received. -/
structure Reaction where
  /-- The label of the rule that matched. -/
  rule : String
  /-- The message that the module publishes in turn, if any. -/
  republish : Option Message := none
  deriving DecidableEq, Repr

namespace Reaction

/-- The rule matched and nothing follows from it. -/
def report (rule : String) : Reaction := ⟨rule, none⟩

/-- The rule matched and a derived message is published. -/
def derive (rule : String) (message : Message) : Reaction := ⟨rule, some message⟩

end Reaction

structure Module where
  name : String
  description : String := ""
  /-- The reactions to a message, in rule order. -/
  receive : Message → List Reaction

end GatewaySim
