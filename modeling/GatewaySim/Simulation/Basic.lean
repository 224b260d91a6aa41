import GatewaySim.Bus.Configured
import GatewaySim.Bus.Observed
import GatewaySim.Gateway.Modules
import GatewaySim.Simulation.Settings
import GatewaySim.Report.Instruments
import GatewaySim.Report.Record
import GatewaySim.Scenario.Configured

/-! # Simulations

A simulation owns a bus with its instruments, registers modules and runs scenarios. Files are not
written by the simulation itself: it collects what is to be written, for someone else to store.
-/

namespace GatewaySim

structure Writing where
  path : String
  content : String
  deriving DecidableEq, Repr

structure Simulation where
  config : Config
  settings : Settings
  observed : ObservedBus Instruments
  instruments : Instruments := {}
  /-- The modules by name; the latest registration comes first. -/
  identities : List (String × ModuleId) := []
  /-- The files that are to be written, the latest last. -/
  writings : List Writing := []

namespace Simulation

/-- A bus that its instruments observe as the settings say: first the console, then the
statistics. -/
def observe (settings : Settings) (bus : Bus) : ObservedBus Instruments where
  bus
  observers :=
    (if settings.traced then [Instruments.trace] else []) ++
      (if settings.statisticsFile.isSome then [Instruments.watch] else [])

def create (config : Config) (isFolder : String → Bool) : Simulation :=
  let settings := Settings.ofConfig config isFolder
  { config, settings, observed := observe settings (Bus.ofConfig (config.part "bus")) }

def register (simulation : Simulation) (module : Module) : ModuleId × Simulation :=
  let (id, observed) := simulation.observed.register module
  (id, { simulation with observed, identities := (module.name, id) :: simulation.identities })

def registerEach (simulation : Simulation) :
    List GatewayModule → List (GatewayModule × ModuleId) × Simulation
  | [] => ([], simulation)
  | module :: rest =>
    let (id, simulation) := simulation.register module.toModule
    let (ids, simulation) := simulation.registerEach rest
    ((module, id) :: ids, simulation)

def registerAll (simulation : Simulation) : List (GatewayModule × ModuleId) × Simulation :=
  simulation.registerEach GatewayModule.all

def moduleId? (simulation : Simulation) (name : String) : Option ModuleId :=
  simulation.identities.lookup name

def publishAs (simulation : Simulation) (sender : String) (message : Message) :
    Except Failure Cascade × Simulation :=
  match simulation.moduleId? sender with
  | none => (.error (.notRegistered sender), simulation)
  | some id =>
    let (cascade, instruments) := simulation.observed.publish simulation.instruments id message
    (.ok cascade, { simulation with instruments })

def write (simulation : Simulation) (path content : String) : Simulation :=
  { simulation with writings := simulation.writings ++ [⟨path, content⟩] }

/-- The path of the record of the scenario that is run as the given number. A folder that ends with
a slash gets no second one, and an empty one gets none, since that would lead to the root. -/
def recordPath (folder : String) (number : Nat) (scenario : Scenario) : String :=
  let separator := if folder.isEmpty || folder.endsWith "/" then "" else "/"
  folder ++ separator ++ scenario.recordName number

def record (simulation : Simulation) (number : Nat) (scenario : Scenario) (cascade : Cascade) :
    Simulation :=
  match simulation.settings.recordFolder with
  | none => simulation
  | some folder => simulation.write (recordPath folder number scenario) cascade.recordText

def runScenario (simulation : Simulation) (number : Nat) (scenario : Scenario) :
    Except Failure Cascade × Simulation :=
  match simulation.publishAs scenario.sender scenario.message with
  | (.error failure, simulation) => (.error failure, simulation)
  | (.ok cascade, simulation) => (.ok cascade, simulation.record number scenario cascade)

def announce (simulation : Simulation) (scenario : Scenario) : Simulation :=
  if simulation.settings.traced then
    { simulation with instruments := simulation.instruments.heading scenario.name }
  else simulation

/-- Runs scenarios one after the other up to the first that fails; the first one has the given
number. -/
def runFrom (simulation : Simulation) (number : Nat) :
    List Scenario → Except Failure (List Cascade) × Simulation
  | [] => (.ok [], simulation)
  | scenario :: rest =>
    match (simulation.announce scenario).runScenario number scenario with
    | (.error failure, simulation) => (.error failure, simulation)
    | (.ok cascade, simulation) =>
      match simulation.runFrom (number + 1) rest with
      | (.error failure, simulation) => (.error failure, simulation)
      | (.ok cascades, simulation) => (.ok (cascade :: cascades), simulation)

def report (simulation : Simulation) : Simulation :=
  match simulation.settings.statisticsFile with
  | none => simulation
  | some path => simulation.write path simulation.instruments.statistics.fileText

/-- Runs scenarios; the statistics are written if all of them succeed. -/
def run (simulation : Simulation) (scenarios : List Scenario) :
    Except Failure (List Cascade) × Simulation :=
  match simulation.runFrom 0 scenarios with
  | (.error failure, simulation) => (.error failure, simulation)
  | (.ok cascades, simulation) => (.ok cascades, simulation.report)

def flush (simulation : Simulation) : (String × List Writing) × Simulation :=
  let (printed, instruments) := simulation.instruments.flush
  ((printed, simulation.writings), { simulation with instruments, writings := [] })

end Simulation

end GatewaySim
