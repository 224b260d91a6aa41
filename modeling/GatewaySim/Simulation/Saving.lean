import GatewaySim.Simulation.Basic

/-! # Simulations that save their files

A simulation that runs saves a record after each scenario, and the statistics at its end. Saving a
file may fail at any time; a run passes over that and goes on. What a run collects and what it
returns is the same as without saving (`Simulation.saves_run`).
-/

namespace GatewaySim

/-- A way to save a file, in a monad that stands for all there is outside of a simulation. Saving
may fail, and it may leave anything behind: the old file, none, or one that is written in part. -/
abbrev Saving (m : Type → Type) := Writing → m (Except String Unit)

namespace Simulation

variable {m : Type → Type} [Monad m]

/-- Records the cascade of a scenario, if cascades are recorded. A record that cannot be saved is
passed over. -/
def recordOn (saving : Saving m) (simulation : Simulation) (number : Nat) (scenario : Scenario)
    (cascade : Cascade) : m Simulation :=
  match simulation.settings.recordFolder with
  | none => return simulation
  | some folder => do
    let path := recordPath folder number scenario
    match ← saving ⟨path, cascade.recordText⟩ with
    | .ok _ | .error _ => return simulation.write path cascade.recordText

def runScenarioOn (saving : Saving m) (simulation : Simulation) (number : Nat)
    (scenario : Scenario) : m (Except Failure Cascade × Simulation) :=
  match simulation.publishAs scenario.sender scenario.message with
  | (.error failure, simulation) => return (.error failure, simulation)
  | (.ok cascade, simulation) =>
    return (.ok cascade, ← simulation.recordOn saving number scenario cascade)

def runFromOn (saving : Saving m) (simulation : Simulation) (number : Nat) :
    List Scenario → m (Except Failure (List Cascade) × Simulation)
  | [] => return (.ok [], simulation)
  | scenario :: rest => do
    match ← (simulation.announce scenario).runScenarioOn saving number scenario with
    | (.error failure, simulation) => return (.error failure, simulation)
    | (.ok cascade, simulation) =>
      match ← simulation.runFromOn saving (number + 1) rest with
      | (.error failure, simulation) => return (.error failure, simulation)
      | (.ok cascades, simulation) => return (.ok (cascade :: cascades), simulation)

/-- Writes the statistics, if they are kept, and says whether that went well. -/
def reportOn (saving : Saving m) (simulation : Simulation) : m (Except String Unit × Simulation) :=
  match simulation.settings.statisticsFile with
  | none => return (.ok (), simulation)
  | some path => do
    let content := simulation.instruments.statistics.fileText
    return (← saving ⟨path, content⟩, simulation.write path content)

/-- Runs scenarios; the statistics are written if all of them succeed. Statistics that cannot be
saved are passed over. -/
def runOn (saving : Saving m) (simulation : Simulation) (scenarios : List Scenario) :
    m (Except Failure (List Cascade) × Simulation) := do
  match ← simulation.runFromOn saving 0 scenarios with
  | (.error failure, simulation) => return (.error failure, simulation)
  | (.ok cascades, simulation) =>
    let (_, simulation) ← simulation.reportOn saving
    return (.ok cascades, simulation)

end Simulation

end GatewaySim
