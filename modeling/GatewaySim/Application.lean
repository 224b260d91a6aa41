import GatewaySim.Config.Source
import GatewaySim.Gateway.DefaultScenarios
import GatewaySim.Simulation.Saving

/-! # The simulator as a program

What the program does with what it finds when it starts: it reads its configuration, registers all
modules of the gateway and runs the configured scenarios, or the built-in ones if none are
configured. Its files are saved on the way (`runOn`), or collected for someone else to save (`run`).
-/

namespace GatewaySim.Application

structure Surroundings where
  /-- The content of the TOML configuration file. -/
  toml : Option String := none
  /-- The content of the JSON configuration file. -/
  json : Option String := none
  /-- The entries of a configuration file in another format, or what is wrong with it, where such a
  file is found before these two. A file that cannot be read has no entries. -/
  elsewhere : Option (Except Config.Error Config.Entries) := none
  /-- The variables of the environment. -/
  environment : List (String × String) := []
  /-- Which paths lead to folders. -/
  isFolder : String → Bool

structure Outcome where
  printed : String := ""
  writings : List Writing := []
  failure : Option Failure := none

def tomlFile : String := "gateway.toml"

def jsonFile : String := "gateway.json"

def withoutMark (text : String) : String :=
  match text.toList with
  | '\ufeff' :: rest => String.ofList rest
  | _ => text

/-- The configuration file that is read: TOML comes before JSON. -/
def fileSource? (surroundings : Surroundings) : Option Config.Source :=
  match surroundings.toml, surroundings.json with
  | some text, _ => some (.toml (some (.file tomlFile)) (withoutMark text))
  | none, some text => some (.json (some (.file jsonFile)) (withoutMark text))
  | none, none => none

def sources (surroundings : Surroundings) : List Config.Source :=
  (fileSource? surroundings).toList ++ [.environment surroundings.environment]

/-- The configuration: the environment is laid over the file. -/
def configuration (surroundings : Surroundings) : Except Config.Error Config :=
  match surroundings.elsewhere with
  | none => Config.ofSources (sources surroundings)
  | some read => read.map fun entries =>
    (({} : Config).addEntries entries).addEntries
      (Config.Environment.read surroundings.environment)

def plan (surroundings : Surroundings) : Except Failure (Config × List Scenario) :=
  match configuration surroundings with
  | .error cause => .error (.config cause)
  | .ok config =>
    (Scenario.ofConfig config).map fun configured =>
      (config, configured.getD Gateway.defaultScenarios)

def start (surroundings : Surroundings) (config : Config) : Simulation :=
  (Simulation.create config surroundings.isFolder).registerAll.2

def Outcome.ofRun (result : Except Failure (List Cascade)) (simulation : Simulation) : Outcome :=
  let ((printed, writings), _) := simulation.flush
  match result with
  | .ok _ => { printed, writings }
  | .error failure => { printed, writings, failure := some failure }

def run (surroundings : Surroundings) : Outcome :=
  match plan surroundings with
  | .error failure => { failure := some failure }
  | .ok (config, scenarios) =>
    let (result, simulation) := (start surroundings config).run scenarios
    .ofRun result simulation

def runOn {m : Type → Type} [Monad m] (saving : Saving m) (surroundings : Surroundings) :
    m Outcome :=
  match plan surroundings with
  | .error failure => return { failure := some failure }
  | .ok (config, scenarios) => do
    let (result, simulation) ← (start surroundings config).runOn saving scenarios
    return .ofRun result simulation

end GatewaySim.Application
