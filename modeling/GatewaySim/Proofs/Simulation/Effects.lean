import GatewaySim.Proofs.Report.Printing
import GatewaySim.Proofs.Simulation.Outcomes
import GatewaySim.Simulation.Basic

/-! # What a run leaves behind

Publishing and running change a simulation in three ways only: text is printed, events are counted
and files are collected. Such a change is `Simulation.extended`, two of them make one
(`extended_extended`), and every run is one: `runFrom_eq` says which, for a run that ends at an
unknown sender as well as for one that succeeds. It rests on what holds of a simulation at any time,
`Simulation.Coherent`.
-/

namespace GatewaySim

namespace Simulation

def recordsOf (settings : Settings) (number : Nat) (entry : Scenario × Cascade) : List Writing :=
  settings.recordFolder.toList.map fun folder =>
    ⟨recordPath folder number entry.1, entry.2.recordText⟩

/-- The files that record scenarios, of which the first is run under the given number. -/
def recordsFrom (settings : Settings) (number : Nat) (entries : List (Scenario × Cascade)) :
    List Writing :=
  (entries.zipIdx number).flatMap fun (entry, number) => recordsOf settings number entry

/-- A simulation that has printed a text, counted events and collected files. Without a console
nothing is printed, and without statistics nothing is counted. -/
def extended (simulation : Simulation) (text : String) (events : List Event)
    (files : List Writing) : Simulation :=
  { simulation with
    instruments :=
      { console :=
          if simulation.settings.traced then simulation.instruments.console.write text
          else simulation.instruments.console
        statistics :=
          if simulation.settings.statisticsFile.isSome then
            events.foldl Statistics.count simulation.instruments.statistics
          else simulation.instruments.statistics }
    writings := simulation.writings ++ files }

variable {simulation : Simulation} {text : String} {events : List Event} {files : List Writing}

@[simp] theorem settings_extended :
    (simulation.extended text events files).settings = simulation.settings := rfl

@[simp] theorem observed_extended :
    (simulation.extended text events files).observed = simulation.observed := rfl

@[simp] theorem writings_extended :
    (simulation.extended text events files).writings = simulation.writings ++ files := rfl

theorem statistics_extended (counted : simulation.settings.statisticsFile.isSome) :
    (simulation.extended text events files).instruments.statistics =
      events.foldl Statistics.count simulation.instruments.statistics :=
  if_pos counted

theorem extended_empty : simulation.extended "" [] [] = simulation := by
  simp [extended, Console.write_empty]

theorem extended_extended (more : String) (others : List Event) (behind : List Writing) :
    (simulation.extended text events files).extended more others behind =
      simulation.extended (text ++ more) (events ++ others) (files ++ behind) := by
  unfold extended
  by_cases traced : simulation.settings.traced <;>
    by_cases counted : simulation.settings.statisticsFile.isSome <;>
      simp [traced, counted, Console.write_write]

/-- The observers of a bus print each event and count it, as the settings say. -/
theorem foldl_notify (settings : Settings) (bus : Bus) (instruments : Instruments)
    (events : List Event) :
    events.foldl (observe settings bus).notify instruments =
      { console :=
          if settings.traced then events.foldl Console.report instruments.console
          else instruments.console
        statistics :=
          if settings.statisticsFile.isSome then
            events.foldl Statistics.count instruments.statistics
          else instruments.statistics } := by
  induction events generalizing instruments with
  | nil => simp
  | cons event rest ih =>
    rw [List.foldl_cons, ih]
    by_cases traced : settings.traced <;>
      by_cases counted : settings.statisticsFile.isSome <;>
        simp [traced, counted, ObservedBus.notify, observe, Instruments.trace, Instruments.watch]

/-! ## What always holds -/

/-- What holds of a simulation at any time: the bus is observed as the settings say, the names lead
to the modules on it, latest first, and the console works. -/
structure Coherent (simulation : Simulation) : Prop where
  observed : simulation.observed = observe simulation.settings simulation.observed.bus
  identities : simulation.identities =
    (simulation.observed.bus.modules.zipIdx.map fun entry => (entry.1.name, entry.2)).reverse
  working : simulation.instruments.console.working

theorem Coherent.extended (coherent : simulation.Coherent) (text : String) (events : List Event)
    (files : List Writing) : (simulation.extended text events files).Coherent where
  observed := coherent.observed
  identities := coherent.identities
  working := by
    show Console.working (if _ then _ else _)
    split
    · rw [Console.working_write, coherent.working]
    · exact coherent.working

theorem written_extended (coherent : simulation.Coherent) :
    (simulation.extended text events files).instruments.console.written =
      simulation.instruments.console.written ++
        if simulation.settings.traced then text else "" := by
  show Console.written (if _ then _ else _) = _
  split
  · rw [Console.written_write coherent.working]
  · rw [String.append_empty]

theorem moduleId?_eq (coherent : simulation.Coherent) (name : String) :
    simulation.moduleId? name = simulation.observed.bus.lastNamed? name := by
  rw [moduleId?, coherent.identities, Bus.lastNamed?, List.findRev?_eq_find?_reverse,
    ← List.map_reverse]
  induction simulation.observed.bus.modules.zipIdx.reverse with
  | nil => rfl
  | cons entry rest ih =>
    obtain ⟨module, id⟩ := entry
    by_cases here : module.name = name
    · simp [here]
    · simp [List.lookup_cons, beq_false_of_ne (Ne.symm here), here, ih]

/-! ## Publishing and running -/

theorem publishAs_eq (coherent : simulation.Coherent) (sender : String) (message : Message) :
    simulation.publishAs sender message =
      match simulation.observed.bus.publishAs? sender message with
      | none => (.error (.notRegistered sender), simulation)
      | some cascade =>
        (.ok cascade, simulation.extended (Trace.cascadeText cascade) cascade.events []) := by
  rw [publishAs, moduleId?_eq coherent, Bus.publishAs?]
  cases simulation.observed.bus.lastNamed? sender with
  | none => rfl
  | some id =>
    have told : ∀ cascade : Cascade,
        cascade.events.foldl simulation.observed.notify simulation.instruments =
          (simulation.extended (Trace.cascadeText cascade) cascade.events []).instruments := by
      intro cascade
      rw [coherent.observed, foldl_notify, Console.foldl_report]
      rfl
    simp only [ObservedBus.publish_eq, told, Option.map_some]
    simp [extended]

theorem record_eq (number : Nat) (scenario : Scenario) (cascade : Cascade) :
    simulation.record number scenario cascade =
      simulation.extended "" [] (recordsOf simulation.settings number (scenario, cascade)) := by
  unfold record recordsOf
  cases simulation.settings.recordFolder <;> simp [extended, write, Console.write_empty]

theorem runScenario_eq (coherent : simulation.Coherent) (number : Nat) (scenario : Scenario) :
    simulation.runScenario number scenario =
      match simulation.observed.bus.cascade? scenario with
      | none => (.error (.notRegistered scenario.sender), simulation)
      | some cascade =>
        (.ok cascade, simulation.extended (Trace.cascadeText cascade) cascade.events
          (recordsOf simulation.settings number (scenario, cascade))) := by
  rw [runScenario, publishAs_eq coherent, ← Bus.cascade?]
  cases simulation.observed.bus.cascade? scenario with
  | none => rfl
  | some cascade => simp [record_eq, extended_extended]

theorem announce_eq (scenario : Scenario) :
    simulation.announce scenario =
      simulation.extended (Trace.headingText scenario.name) [] [] := by
  unfold announce
  split <;> simp [extended, Instruments.heading, Console.heading, *]

theorem recordsFrom_cons (settings : Settings) (number : Nat) (entry : Scenario × Cascade)
    (rest : List (Scenario × Cascade)) :
    recordsFrom settings number (entry :: rest) =
      recordsOf settings number entry ++ recordsFrom settings (number + 1) rest := by
  rw [recordsFrom, List.zipIdx_cons, List.flatMap_cons]
  rfl

/-- A run prints, counts and records the scenarios it gets through, in order; one that ends early
has printed the heading of the failing scenario and nothing else of it. -/
theorem runFrom_eq (coherent : simulation.Coherent) (number : Nat) (scenarios : List Scenario) :
    simulation.runFrom number scenarios =
      (simulation.observed.bus.runResult scenarios,
        simulation.extended (simulation.observed.bus.runText scenarios)
          (simulation.observed.bus.runEvents scenarios)
          (recordsFrom simulation.settings number (simulation.observed.bus.ran scenarios))) := by
  induction scenarios generalizing simulation number with
  | nil => exact congrArg (Prod.mk _) extended_empty.symm
  | cons scenario rest ih =>
    have announced := runScenario_eq (coherent.extended (Trace.headingText scenario.name) [] [])
      number scenario
    rw [runFrom, announce_eq, announced, observed_extended]
    -- the heading is there in either case, before the sender is looked up
    cases found : simulation.observed.bus.cascade? scenario with
    | none =>
      rw [Bus.runResult_cons_of_none rest found, Bus.runText_cons_of_none rest found,
        Bus.runEvents, Bus.ran_cons_of_none rest found]
      rfl
    | some cascade =>
      -- the rest runs where the first scenario has left everything, one number further
      have behind := ih (coherent.extended (Bus.scenarioText scenario cascade) cascade.events
        (recordsOf simulation.settings number (scenario, cascade))) (number + 1)
      rw [extended_extended, settings_extended, observed_extended] at behind
      rw [Bus.runResult_cons_of_some rest found, Bus.runText_cons_of_some rest found,
        Bus.runEvents, Bus.ran_cons_of_some rest found, List.flatMap_cons, recordsFrom_cons,
        ← Bus.runEvents]
      simp only [extended_extended, List.nil_append, settings_extended]
      rw [← Bus.scenarioText, behind]
      cases simulation.observed.bus.runResult rest <;> rfl

def statisticsFiles (settings : Settings) (statistics : Statistics) : List Writing :=
  settings.statisticsFile.toList.map fun output => ⟨output, statistics.fileText⟩

/-- The files that a run writes: the records, and behind them the statistics if all scenarios have
been run. -/
def runFiles (simulation : Simulation) (scenarios : List Scenario) : List Writing :=
  recordsFrom simulation.settings 0 (simulation.observed.bus.ran scenarios) ++
    if simulation.observed.bus.reach scenarios = scenarios.length then
      statisticsFiles simulation.settings
        ((simulation.observed.bus.runEvents scenarios).foldl Statistics.count
          simulation.instruments.statistics)
    else []

theorem report_extended :
    (simulation.extended text events files).report =
      simulation.extended text events
        (files ++ statisticsFiles simulation.settings
          (events.foldl Statistics.count simulation.instruments.statistics)) := by
  unfold report
  cases kept : simulation.settings.statisticsFile <;>
    simp [extended, write, statisticsFiles, kept]

/-- A run ends as its outcome on the bus says; the statistics are written only if it succeeds. -/
theorem run_eq (coherent : simulation.Coherent) (scenarios : List Scenario) :
    simulation.run scenarios =
      (simulation.observed.bus.runResult scenarios,
        simulation.extended (simulation.observed.bus.runText scenarios)
          (simulation.observed.bus.runEvents scenarios) (simulation.runFiles scenarios)) := by
  rw [run, runFrom_eq coherent, runFiles]
  rcases Nat.lt_or_eq_of_le (Bus.reach_le_length scenarios) with early | whole
  · rw [Bus.runResult_of_lt early, if_neg (Nat.ne_of_lt early), List.append_nil]
  · simp only [Bus.runResult_of_eq whole, if_pos whole, report_extended]

end Simulation

end GatewaySim
