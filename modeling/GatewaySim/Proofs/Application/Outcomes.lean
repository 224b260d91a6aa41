import GatewaySim.Application
import GatewaySim.Proofs.Gateway.Rewrites
import GatewaySim.Proofs.Scenario.Configured
import GatewaySim.Proofs.Simulation.Saving
import GatewaySim.Proofs.Simulation.Steps
import Mathlib

/-! # When the program fails

The program fails for what is in its configuration and for nothing else: the configuration does not
build, its scenarios cannot be read, or one of them has a sender that is no module of the gateway
(`runOn_outcome`). Whatever becomes of its files, it runs all other lists of scenarios to their end.
-/

namespace GatewaySim.Application

/-! ## What is wrong with a configuration -/

def Unbuildable (built : Except Config.Error Config) : Prop := ∃ cause, built = .error cause

def Unreadable (built : Except Config.Error Config) : Prop :=
  ∃ config failure, built = .ok config ∧ Scenario.ofConfig config = .error failure

def Unsendable (built : Except Config.Error Config) : Prop :=
  ∃ config scenarios scenario, built = .ok config ∧
    Scenario.ofConfig config = .ok (some scenarios) ∧ scenario ∈ scenarios ∧
      scenario.sender ∉ ["IoTHub", "Router", "IDMAP", "SIM_BLE", "DMHUB", "DMWORKER"]

variable {surroundings : Surroundings} {config : Config} {configured : Option (List Scenario)}

theorem ofSources_file (source : Config.Source) (pairs : List (String × String)) :
    Config.ofSources [source, .environment pairs] = source.entries.map fun entries =>
      (({} : Config).addEntries entries).addEntries (Config.Environment.read pairs) := by
  cases read : source.entries <;> simp only [Config.ofSources, List.foldlM_cons, read] <;> rfl

/-- What a configuration is built from: the entries of one file, if there is one, and over them
those of the environment. -/
theorem configuration_eq (surroundings : Surroundings) :
    configuration surroundings =
      (surroundings.elsewhere.getD
        (surroundings.toml.elim
          (surroundings.json.elim (.ok []) fun text =>
            Config.JsonSource.read (some (.file "gateway.json")) (withoutMark text))
          fun text => (Toml.read (some (.file "gateway.toml")) (withoutMark text)).elim
            (.error .malformed) .ok)).map fun entries =>
        (({} : Config).addEntries entries).addEntries
          (Config.Environment.read surroundings.environment) := by
  obtain ⟨toml, json, elsewhere, environment, isFolder⟩ := surroundings
  cases elsewhere with
  | some read => rfl
  | none =>
    cases toml with
    | some text =>
      refine (ofSources_file (.toml (some (.file "gateway.toml")) (withoutMark text)) _).trans ?_
      simp only [Config.Source.entries, Option.getD_none, Option.elim_some]
      cases Toml.read (some (.file "gateway.toml")) (withoutMark text) <;> rfl
    | none =>
      cases json with
      | some text =>
        exact ofSources_file (.json (some (.file "gateway.json")) (withoutMark text)) environment
      | none => rfl

theorem plan_of_unbuildable (unbuildable : Unbuildable (configuration surroundings)) :
    ∃ failure, plan surroundings = .error failure := by
  obtain ⟨cause, built⟩ := unbuildable
  exact ⟨.config cause, by rw [plan, built]⟩

theorem plan_of_unreadable (unreadable : Unreadable (configuration surroundings)) :
    ∃ failure, plan surroundings = .error failure := by
  obtain ⟨config, failure, built, read⟩ := unreadable
  refine ⟨failure, ?_⟩
  simp only [plan, built, read]
  rfl

theorem plan_of_ok (built : configuration surroundings = .ok config)
    (read : Scenario.ofConfig config = .ok configured) :
    plan surroundings = .ok (config, configured.getD Gateway.defaultScenarios) := by
  simp only [plan, built, read]
  rfl

theorem exists_configured (buildable : ¬ Unbuildable (configuration surroundings))
    (readable : ¬ Unreadable (configuration surroundings)) :
    ∃ config configured, configuration surroundings = .ok config ∧
      Scenario.ofConfig config = .ok configured := by
  cases built : configuration surroundings with
  | error cause => exact absurd ⟨cause, built⟩ buildable
  | ok config =>
    cases read : Scenario.ofConfig config with
    | error failure => exact absurd ⟨config, failure, built, read⟩ readable
    | ok configured => exact ⟨config, configured, rfl, read⟩

/-! ## Files -/

theorem writings_ofRun (result : Except Failure (List Cascade)) (simulation : Simulation) :
    (Outcome.ofRun result simulation).writings = simulation.writings := by
  cases result <;> rfl

theorem runOn_of_plan_error {m : Type → Type} [Monad m] (saving : Saving m) {failure : Failure}
    (planned : plan surroundings = .error failure) :
    runOn saving surroundings = pure { failure := some failure } := by
  rw [runOn, planned]

/-- A program that saves its files as it goes comes to the same outcome as one that only collects
them, and does nothing outside but to save these files. -/
theorem runOn_eq {m : Type → Type} [Monad m] [LawfulMonad m] (saving : Saving m)
    (surroundings : Surroundings) :
    runOn saving surroundings = do
      Simulation.saveAll saving (run surroundings).writings
      return run surroundings := by
  unfold runOn run
  cases plan surroundings with
  | error failure => simp [Simulation.saveAll]
  | ok planned =>
    obtain ⟨config, scenarios⟩ := planned
    obtain ⟨files, collected, acts⟩ :=
      Simulation.saves_run saving (start surroundings config) scenarios
    have all : (Outcome.ofRun ((start surroundings config).run scenarios).1
        ((start surroundings config).run scenarios).2).writings = files := by
      rw [writings_ofRun, collected]
      rfl
    simp [acts, all]

/-! ## Senders -/

theorem coherent_start : (start surroundings config).Coherent :=
  Simulation.coherent_registerEach (Simulation.coherent_create _ _) _

theorem names_start :
    (start surroundings config).observed.bus.modules.map Module.name =
      ["IoTHub", "Router", "IDMAP", "SIM_BLE", "DMHUB", "DMWORKER"] := by
  rw [start, Simulation.bus_registerAll_create, Bus.modules_ofGateway]
  rfl

theorem sender_of_mem_defaultScenarios :
    ∀ scenario, scenario ∈ Gateway.defaultScenarios →
      scenario.sender ∈ ["IoTHub", "Router", "IDMAP", "SIM_BLE", "DMHUB", "DMWORKER"] := by
  decide

theorem not_unsendable_iff (built : configuration surroundings = .ok config)
    (read : Scenario.ofConfig config = .ok configured) :
    ¬ Unsendable (configuration surroundings) ↔
      ∀ scenario, scenario ∈ configured.getD Gateway.defaultScenarios →
        scenario.sender ∈ ["IoTHub", "Router", "IDMAP", "SIM_BLE", "DMHUB", "DMWORKER"] := by
  constructor
  · intro sendable scenario member
    cases configured with
    | none => exact sender_of_mem_defaultScenarios scenario member
    | some scenarios =>
      by_contra unknown
      exact sendable ⟨config, scenarios, scenario, built, read, member, unknown⟩
  · rintro known ⟨_, scenarios, scenario, again, listed, member, unknown⟩
    cases built.symm.trans again
    cases read.symm.trans listed
    exact unknown (known scenario member)

/-- Scenarios whose senders are all there give one cascade each. -/
theorem exists_cascades_run_start {scenarios : List Scenario}
    (known : ∀ scenario, scenario ∈ scenarios →
      scenario.sender ∈ ["IoTHub", "Router", "IDMAP", "SIM_BLE", "DMHUB", "DMWORKER"]) :
    ∃ cascades, ((start surroundings config).run scenarios).1 = .ok cascades ∧
      cascades.map some = scenarios.map (start surroundings config).observed.bus.cascade? := by
  rw [← @names_start surroundings config, ← Bus.reach_eq_length_iff] at known
  have each := @Bus.map_some_snd_ran (start surroundings config).observed.bus scenarios
  rw [known, List.take_length] at each
  refine ⟨_, ?_, each⟩
  rw [Simulation.run_eq coherent_start]
  exact Bus.runResult_of_eq known

/-- A simulation of the gateway runs scenarios to their end exactly if all of them have a sender. -/
theorem exists_run_start_iff (scenarios : List Scenario) :
    (∃ cascades, ((start surroundings config).run scenarios).1 = .ok cascades) ↔
      ∀ scenario, scenario ∈ scenarios →
        scenario.sender ∈ ["IoTHub", "Router", "IDMAP", "SIM_BLE", "DMHUB", "DMWORKER"] := by
  constructor
  · rintro ⟨cascades, succeeded⟩
    rw [Simulation.run_eq coherent_start] at succeeded
    rw [← @names_start surroundings config, ← Bus.reach_eq_length_iff]
    exact Bus.reach_eq_length_of_ok succeeded
  · intro known
    exact (exists_cascades_run_start known).imp fun _ run => run.1

theorem failure_ofRun_eq_none_iff (result : Except Failure (List Cascade))
    (simulation : Simulation) :
    (Outcome.ofRun result simulation).failure = none ↔ ∃ cascades, result = .ok cascades := by
  cases result <;> simp [Outcome.ofRun]

/-! ## Outcomes -/

/-- The program succeeds exactly if nothing is wrong with its configuration. -/
theorem failure_run_eq_none_iff :
    (run surroundings).failure = none ↔
      ¬ Unbuildable (configuration surroundings) ∧ ¬ Unreadable (configuration surroundings) ∧
        ¬ Unsendable (configuration surroundings) := by
  by_cases unbuildable : Unbuildable (configuration surroundings)
  · obtain ⟨failure, planned⟩ := plan_of_unbuildable unbuildable
    simp [run, planned, unbuildable]
  by_cases unreadable : Unreadable (configuration surroundings)
  · obtain ⟨failure, planned⟩ := plan_of_unreadable unreadable
    simp [run, planned, unreadable]
  obtain ⟨config, configured, built, read⟩ := exists_configured unbuildable unreadable
  rw [run, plan_of_ok built read, not_unsendable_iff built read,
    ← @exists_run_start_iff surroundings config]
  simp only [failure_ofRun_eq_none_iff, unbuildable, unreadable, not_false_eq_true, true_and]

theorem fst_runOn {δ : Type} (saving : Saving (StateM δ)) (world : δ)
    (surroundings : Surroundings) :
    ((runOn saving surroundings).run world).1 = run surroundings := by
  rw [runOn_eq]
  rfl

/-- The program fails exactly if its configuration does not build, its scenarios cannot be read, or
one of them has a sender that is no module of the gateway. In the first two cases it prints nothing
and leaves the world as it was. If it does not fail, it leaves behind what it has after running all
scenarios, each to its cascade: those that are configured, or three others if `scenario` is no
array. -/
theorem runOn_outcome {δ : Type} (saving : Saving (StateM δ)) (world : δ)
    (surroundings : Surroundings) :
    let file : Except Config.Error Config.Entries := surroundings.elsewhere.getD
      (surroundings.toml.elim
        (surroundings.json.elim (.ok []) fun text =>
          Config.JsonSource.read (some (.file "gateway.json")) (withoutMark text))
        fun text => (Toml.read (some (.file "gateway.toml")) (withoutMark text)).elim
          (.error .malformed) .ok)
    let built : Except Config.Error Config := file.map fun entries =>
      (({} : Config).addEntries entries).addEntries
        (Config.Environment.read surroundings.environment)
    let outcome := ((runOn saving surroundings).run world).1
    let after := ((runOn saving surroundings).run world).2
    (outcome.failure.isSome ↔ Unbuildable built ∨ Unreadable built ∨ Unsendable built) ∧
    (Unbuildable built ∨ Unreadable built →
      outcome.printed = "" ∧ outcome.writings = [] ∧ after = world) ∧
    (outcome.failure = none → ∃ config configured cascades,
      built = .ok config ∧ Scenario.ofConfig config = .ok configured ∧
      (configured = none ↔
        ∀ origin values, config.value? ⟨"scenario", []⟩ ≠ some (.array origin values)) ∧
      let scenarios := configured.getD
        [⟨"DM path", "DMHUB",
            { dest := "BLE", dmId := "name", src := "DMHUB", request := "a DM request" }⟩,
          ⟨"IoTHub D2C path", "SIM_BLE", { src := "BLE", macAddress := "01:01", uuid := "UUID" }⟩,
          ⟨"IoTHub C2D path", "IoTHub",
            { src := "IoTHub", dest := "device", uuid := "UUID", deviceId := "a device name" }⟩]
      let simulation := start surroundings config
      let ran := (simulation.runOn saving scenarios).run world
      ran.1.1 = .ok cascades ∧ cascades.map some = scenarios.map simulation.observed.bus.cascade? ∧
      outcome = .ofRun (.ok cascades) ran.1.2 ∧ after = ran.2) := by
  intro file built outcome after
  have same : built = configuration surroundings := (configuration_eq surroundings).symm
  have result : outcome = run surroundings := fst_runOn saving world surroundings
  refine ⟨?_, ?_, ?_⟩
  · rw [same, result, Option.isSome_iff_ne_none, ne_eq, failure_run_eq_none_iff]
    simp only [not_and_or, not_not]
  · intro fails
    rw [same] at fails
    obtain ⟨failure, planned⟩ := fails.elim plan_of_unbuildable plan_of_unreadable
    have acts : (runOn saving surroundings).run world = ({ failure := some failure }, world) := by
      rw [runOn_of_plan_error saving planned]
      rfl
    simp only [outcome, after, acts, and_self]
  · intro succeeded
    rw [result, failure_run_eq_none_iff] at succeeded
    obtain ⟨buildable, readable, sendable⟩ := succeeded
    obtain ⟨config, configured, correct, read⟩ := exists_configured buildable readable
    rw [not_unsendable_iff correct read] at sendable
    obtain ⟨cascades, succeeded, each⟩ := exists_cascades_run_start sendable
    have listed := Scenario.eq_none_iff_of_ofConfig read
    refine ⟨config, configured, cascades, same.trans correct, read, listed, ?_⟩
    intro scenarios simulation ran
    -- saving the records and the statistics does not change the result, even where it fails
    have reached : ran.1.1 = .ok cascades := by
      obtain ⟨files, _, acts⟩ := Simulation.saves_run saving simulation scenarios
      rw [← succeeded]
      show ((simulation.runOn saving scenarios).run world).1.1 = _
      rw [acts]
      rfl
    have acts : (runOn saving surroundings).run world = (.ofRun ran.1.1 ran.1.2, ran.2) := by
      rw [runOn, plan_of_ok correct read]
      rfl
    refine ⟨reached, each, ?_, ?_⟩
    · rw [← reached]
      exact congrArg Prod.fst acts
    · exact congrArg Prod.snd acts

theorem exists_of_map_configuration {result : Except Failure (Option (List Scenario))}
    (read : (configuration surroundings).map Scenario.ofConfig = .ok result) :
    ∃ config, configuration surroundings = .ok config ∧ Scenario.ofConfig config = result := by
  cases built : configuration surroundings with
  | error cause =>
    rw [built] at read
    cases read
  | ok config =>
    rw [built] at read
    cases read
    exact ⟨config, rfl, rfl⟩

def withToml (text : String) : Surroundings := { toml := some text, isFolder := fun _ => false }

def brokenFile : Surroundings := withToml "[bus"

def silentFile : Surroundings := withToml "[[scenario]]\nsender = \"IoTHub\""

def strangeFile : Surroundings :=
  withToml "[[scenario]]\nsender = \"Nobody\"\nmessage = \"\x7b\x7d\""

def datedFile : Surroundings :=
  withToml "[bus]\nhop-limit = 0\nsince = 1979-05-27\n[monitor]\noutput = \"a\""

theorem unbuildable_brokenFile : Unbuildable (configuration brokenFile) := by
  have read : (configuration brokenFile).map Scenario.ofConfig = .error .malformed := by
    decide +kernel
  cases built : configuration brokenFile with
  | error cause => exact ⟨cause, rfl⟩
  | ok config =>
    rw [built] at read
    cases read

theorem unreadable_silentFile : Unreadable (configuration silentFile) := by
  have read : (configuration silentFile).map Scenario.ofConfig =
      .ok (.error (.noMessage "scenario 0" (.missing "message"))) := by
    decide +kernel
  obtain ⟨config, built, read⟩ := exists_of_map_configuration read
  exact ⟨config, _, built, read⟩

theorem unsendable_strangeFile : Unsendable (configuration strangeFile) := by
  have read : (configuration strangeFile).map Scenario.ofConfig =
      .ok (.ok (some [⟨"scenario 0", "Nobody", .empty⟩])) := by
    decide +kernel
  obtain ⟨config, built, read⟩ := exists_of_map_configuration read
  exact ⟨config, _, _, built, read, List.mem_singleton_self _, by decide⟩

theorem configured_datedFile :
    ∃ config, configuration datedFile = .ok config ∧ Scenario.ofConfig config = .ok none := by
  have read : (configuration datedFile).map Scenario.ofConfig = .ok (.ok none) := by
    decide +kernel
  exact exists_of_map_configuration read

/-- Where no file can be saved: the first two configurations are at fault before anything is
printed, the third is at fault as well, and the fourth gives the three scenarios that are built
in. -/
theorem runOn_outcome_unsaved :
    let refusing : Saving (StateM Nat) := fun _ tries => (.error "no space left", tries + 1)
    let ran (surroundings : Surroundings) := (runOn refusing surroundings).run 0
    (∀ surroundings ∈ [brokenFile, silentFile, strangeFile],
      (ran surroundings).1.failure.isSome) ∧
    (∀ surroundings ∈ [brokenFile, silentFile],
      (ran surroundings).1.printed = "" ∧ (ran surroundings).2 = 0) ∧
    (ran datedFile).1.failure = none ∧
    ∃ cascades simulation, cascades.length = 3 ∧
      (ran datedFile).1 = .ofRun (.ok cascades) simulation := by
  intro refusing ran
  have each (surroundings : Surroundings) := runOn_outcome refusing 0 surroundings
  simp only [← configuration_eq] at each
  obtain ⟨config, built, read⟩ := configured_datedFile
  have succeeds : (ran datedFile).1.failure = none := by
    rw [← Option.not_isSome_iff_eq_none, (each datedFile).1]
    rintro (⟨_, again⟩ | ⟨_, _, again, wrong⟩ | ⟨_, _, _, again, wrong, _⟩)
    · cases built.symm.trans again
    · cases built.symm.trans again
      cases read.symm.trans wrong
    · cases built.symm.trans again
      cases read.symm.trans wrong
  refine ⟨?_, ?_, succeeds, ?_⟩
  · simp only [List.forall_mem_cons, List.not_mem_nil, false_imp_iff, implies_true, and_true]
    exact ⟨(each _).1.mpr (.inl unbuildable_brokenFile),
      (each _).1.mpr (.inr (.inl unreadable_silentFile)),
      (each _).1.mpr (.inr (.inr unsendable_strangeFile))⟩
  · simp only [List.forall_mem_cons, List.not_mem_nil, false_imp_iff, implies_true, and_true]
    obtain ⟨broken, _, brokenAfter⟩ := (each _).2.1 (.inl unbuildable_brokenFile)
    obtain ⟨silent, _, silentAfter⟩ := (each _).2.1 (.inr unreadable_silentFile)
    exact ⟨⟨broken, brokenAfter⟩, silent, silentAfter⟩
  · obtain ⟨_, _, cascades, again, configured, _, _, run, leaves, _⟩ := (each _).2.2 succeeds
    cases built.symm.trans again
    cases read.symm.trans configured
    exact ⟨cascades, _, by simpa using congrArg List.length run, leaves⟩

end GatewaySim.Application
