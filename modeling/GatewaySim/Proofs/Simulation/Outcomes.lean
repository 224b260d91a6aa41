import GatewaySim.Bus.Dispatch
import GatewaySim.Failure
import GatewaySim.Report.Trace
import GatewaySim.Scenario.Basic
import Mathlib.Data.List.Basic

/-! # Outcomes of runs

What running scenarios on a bus should come to: which of them it gets through, with which cascades,
what it prints and how it ends. All of it depends on the modules and the scenarios only. A run gets
as far as the first scenario whose sender is not registered (`reach`).
-/

namespace GatewaySim.Bus

def lastNamed? (bus : Bus) (name : String) : Option ModuleId :=
  (bus.modules.zipIdx.findRev? fun entry => entry.1.name = name).map Prod.snd

/-- The cascade of a message that the last module of a name publishes, if there is one. -/
def publishAs? (bus : Bus) (sender : String) (message : Message) : Option Cascade :=
  (bus.lastNamed? sender).map fun id => bus.publish id message

def cascade? (bus : Bus) (scenario : Scenario) : Option Cascade :=
  bus.publishAs? scenario.sender scenario.message

/-- The index of the first scenario whose sender is not registered, and the number of scenarios if
all are. -/
def reach (bus : Bus) (scenarios : List Scenario) : Nat :=
  scenarios.findIdx fun scenario => scenario.sender ∉ bus.modules.map Module.name

def ran (bus : Bus) : List Scenario → List (Scenario × Cascade)
  | [] => []
  | scenario :: rest =>
    match bus.cascade? scenario with
    | none => []
    | some cascade => (scenario, cascade) :: bus.ran rest

def runEvents (bus : Bus) (scenarios : List Scenario) : List Event :=
  (bus.ran scenarios).flatMap fun entry => entry.2.events

/-- The result of a run: its cascades, or the failure at the scenario that ends it early. -/
def runResult (bus : Bus) (scenarios : List Scenario) : Except Failure (List Cascade) :=
  match scenarios[bus.reach scenarios]? with
  | none => .ok ((bus.ran scenarios).map Prod.snd)
  | some failed => .error (.notRegistered failed.sender)

def scenarioText (scenario : Scenario) (cascade : Cascade) : String :=
  Trace.headingText scenario.name ++ Trace.cascadeText cascade

/-- What a run prints; of the scenario that ends it early, only the heading. -/
def runText (bus : Bus) (scenarios : List Scenario) : String :=
  String.join ((bus.ran scenarios).map fun entry => scenarioText entry.1 entry.2) ++
    scenarios[bus.reach scenarios]?.elim "" fun failed => Trace.headingText failed.name

/-- A run prints the name of each scenario between blank lines, and a line for each event. -/
theorem runText_eq (bus : Bus) (scenarios : List Scenario) :
    bus.runText scenarios =
      String.join ((bus.ran scenarios).map fun entry =>
        "\n" ++ entry.1.name ++ "\n\n" ++
          String.join (entry.2.events.map fun event => event.traceLine ++ "\n")) ++
        scenarios[bus.reach scenarios]?.elim "" fun failed => "\n" ++ failed.name ++ "\n\n" :=
  rfl

variable {bus : Bus}

theorem lastNamed?_eq_none_iff {name : String} :
    bus.lastNamed? name = none ↔ name ∉ bus.modules.map Module.name := by
  have names : bus.modules.map Module.name =
      bus.modules.zipIdx.map fun entry => entry.1.name := by
    conv_lhs => rw [← List.zipIdx_map_fst 0 bus.modules, List.map_map]
    rfl
  simp [lastNamed?, List.findRev?_eq_find?_reverse, names]

theorem cascade?_eq_none_iff {scenario : Scenario} :
    bus.cascade? scenario = none ↔ scenario.sender ∉ bus.modules.map Module.name := by
  rw [cascade?, publishAs?, Option.map_eq_none_iff, lastNamed?_eq_none_iff]

/-- A later registration wins. -/
theorem lastNamed?_register (module : Module) (name : String) :
    (bus.register module).2.lastNamed? name =
      if module.name = name then some bus.modules.length else bus.lastNamed? name := by
  by_cases same : module.name = name <;>
    simp [register, lastNamed?, List.findRev?_eq_find?_reverse, List.zipIdx_append, same]

theorem reach_le_length (scenarios : List Scenario) : bus.reach scenarios ≤ scenarios.length :=
  List.findIdx_le_length

theorem runResult_of_lt {scenarios : List Scenario}
    (early : bus.reach scenarios < scenarios.length) :
    bus.runResult scenarios =
      .error (.notRegistered scenarios[bus.reach scenarios].sender) := by
  rw [runResult, List.getElem?_eq_getElem early]

theorem runResult_of_eq {scenarios : List Scenario}
    (whole : bus.reach scenarios = scenarios.length) :
    bus.runResult scenarios = .ok ((bus.ran scenarios).map Prod.snd) := by
  rw [runResult, List.getElem?_eq_none (Nat.le_of_eq whole.symm)]

theorem reach_eq_length_of_ok {scenarios : List Scenario} {cascades : List Cascade}
    (succeeded : bus.runResult scenarios = .ok cascades) :
    bus.reach scenarios = scenarios.length := by
  rcases Nat.lt_or_eq_of_le (reach_le_length scenarios) with early | whole
  · rw [runResult_of_lt early] at succeeded
    cases succeeded
  · exact whole

theorem reach_eq_length_iff {scenarios : List Scenario} :
    bus.reach scenarios = scenarios.length ↔
      ∀ scenario, scenario ∈ scenarios → scenario.sender ∈ bus.modules.map Module.name := by
  simp [reach, List.findIdx_eq_length]

/-! ## Runs that begin with a given scenario -/

section Cons

variable {scenario : Scenario} {cascade : Cascade} (rest : List Scenario)

theorem reach_cons_of_none (unknown : bus.cascade? scenario = none) :
    bus.reach (scenario :: rest) = 0 := by
  rw [reach, List.findIdx_cons, decide_eq_true (cascade?_eq_none_iff.mp unknown)]
  rfl

theorem reach_cons_of_some (found : bus.cascade? scenario = some cascade) :
    bus.reach (scenario :: rest) = bus.reach rest + 1 := by
  have known : ¬ scenario.sender ∉ bus.modules.map Module.name := by
    rw [← cascade?_eq_none_iff, found]
    exact Option.some_ne_none cascade
  rw [reach, List.findIdx_cons, decide_eq_false known]
  rfl

theorem ran_cons_of_none (unknown : bus.cascade? scenario = none) :
    bus.ran (scenario :: rest) = [] := by
  rw [ran, unknown]

theorem ran_cons_of_some (found : bus.cascade? scenario = some cascade) :
    bus.ran (scenario :: rest) = (scenario, cascade) :: bus.ran rest := by
  rw [ran, found]

theorem runResult_cons_of_none (unknown : bus.cascade? scenario = none) :
    bus.runResult (scenario :: rest) = .error (.notRegistered scenario.sender) := by
  rw [runResult, reach_cons_of_none rest unknown]
  rfl

theorem runResult_cons_of_some (found : bus.cascade? scenario = some cascade) :
    bus.runResult (scenario :: rest) = (bus.runResult rest).map (cascade :: ·) := by
  rw [runResult, runResult, reach_cons_of_some rest found, ran_cons_of_some rest found,
    List.getElem?_cons_succ]
  cases rest[bus.reach rest]? <;> rfl

theorem runText_cons_of_none (unknown : bus.cascade? scenario = none) :
    bus.runText (scenario :: rest) = Trace.headingText scenario.name := by
  rw [runText, ran_cons_of_none rest unknown, reach_cons_of_none rest unknown]
  exact String.empty_append

theorem runText_cons_of_some (found : bus.cascade? scenario = some cascade) :
    bus.runText (scenario :: rest) = scenarioText scenario cascade ++ bus.runText rest := by
  rw [runText, runText, ran_cons_of_some rest found, reach_cons_of_some rest found,
    List.getElem?_cons_succ, List.map_cons, String.join_cons, String.append_assoc]

end Cons

/-! ## How far a run gets -/

theorem fst_ran (scenarios : List Scenario) :
    (bus.ran scenarios).map Prod.fst = scenarios.take (bus.reach scenarios) := by
  induction scenarios with
  | nil => rfl
  | cons scenario rest ih =>
    cases found : bus.cascade? scenario with
    | none =>
      rw [ran_cons_of_none rest found, reach_cons_of_none rest found]
      rfl
    | some cascade =>
      rw [ran_cons_of_some rest found, reach_cons_of_some rest found, List.map_cons, ih,
        List.take_succ_cons]

theorem cascade?_of_mem_ran {scenarios : List Scenario} {entry : Scenario × Cascade}
    (member : entry ∈ bus.ran scenarios) : bus.cascade? entry.1 = some entry.2 := by
  induction scenarios with
  | nil => cases member
  | cons scenario rest ih =>
    cases found : bus.cascade? scenario with
    | none =>
      rw [ran_cons_of_none rest found] at member
      cases member
    | some cascade =>
      rw [ran_cons_of_some rest found] at member
      rcases List.mem_cons.mp member with rfl | behind
      · exact found
      · exact ih behind

theorem map_some_snd_ran (scenarios : List Scenario) :
    ((bus.ran scenarios).map Prod.snd).map some =
      (scenarios.take (bus.reach scenarios)).map bus.cascade? := by
  rw [← fst_ran, List.map_map, List.map_map]
  exact List.map_congr_left fun entry member => (cascade?_of_mem_ran member).symm

/-- The entries of a run are the scenarios before the first with an unknown sender. -/
theorem getElem?_ran {scenarios : List Scenario} {i : Nat} {entry : Scenario × Cascade}
    (found : (bus.ran scenarios)[i]? = some entry) :
    i < bus.reach scenarios ∧ scenarios[i]? = some entry.1 := by
  have scenario : (scenarios.take (bus.reach scenarios))[i]? = some entry.1 := by
    rw [← fst_ran, List.getElem?_map, found]
    rfl
  rw [List.getElem?_take] at scenario
  split at scenario
  · exact ⟨‹_›, scenario⟩
  · cases scenario

end GatewaySim.Bus
