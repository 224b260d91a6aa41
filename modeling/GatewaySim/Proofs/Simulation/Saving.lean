import GatewaySim.Simulation.Saving
import Mathlib.Data.List.Basic

/-! # Saving files in a run

A run that saves its files one by one does what a run does that only collects them, and all that
it does outside is to save these files, in this order, whether or not that succeeds
(`Simulation.saves_run`).
-/

namespace GatewaySim

namespace Simulation

variable {m : Type → Type} [Monad m] {α β : Type}

def saveAll (saving : Saving m) : List Writing → m Unit
  | [] => return ()
  | file :: rest => do
    let _ ← saving file
    saveAll saving rest

/-- An action comes to a result, and all it does outside of the simulation is to save the files that
the result has collected. -/
def Saves (saving : Saving m) (before : Simulation) (action : m (α × Simulation))
    (result : α × Simulation) : Prop :=
  ∃ files, result.2.writings = before.writings ++ files ∧
    action = (do saveAll saving files; return result)

variable [LawfulMonad m] {saving : Saving m} {before : Simulation}

theorem saveAll_append (files others : List Writing) :
    saveAll saving (files ++ others) = (do saveAll saving files; saveAll saving others) := by
  induction files with
  | nil => simp [saveAll]
  | cons file rest ih => simp [saveAll, ih]

theorem saves_pure {result : α × Simulation} (same : result.2.writings = before.writings) :
    Saves saving before (pure result) result :=
  ⟨[], by rw [same, List.append_nil], by simp [saveAll]⟩

/-- What becomes of a file makes no difference, as long as everything goes on in the same way. -/
theorem saves_file {file : Writing} {next : Except String Unit → m (α × Simulation)}
    {result : α × Simulation} (same : ∀ outcome, next outcome = pure result)
    (collected : result.2.writings = before.writings ++ [file]) :
    Saves saving before (saving file >>= next) result :=
  ⟨[file], collected, by simp [saveAll, funext same]⟩

/-- One action saves its files, and then the next one saves its own. -/
theorem Saves.bind {action : m (α × Simulation)} {middle : α × Simulation}
    {next : α × Simulation → m (β × Simulation)} {result : β × Simulation}
    (first : Saves saving before action middle)
    (second : Saves saving middle.2 (next middle) result) :
    Saves saving before (action >>= next) result := by
  obtain ⟨files, collected, acts⟩ := first
  obtain ⟨others, behind, goesOn⟩ := second
  refine ⟨files ++ others, by rw [behind, collected, List.append_assoc], ?_⟩
  simp [acts, goesOn, saveAll_append]

omit [LawfulMonad m] in
theorem Saves.of_writings_eq {other : Simulation} {action : m (α × Simulation)}
    {result : α × Simulation} (saves : Saves saving other action result)
    (same : other.writings = before.writings) : Saves saving before action result := by
  rwa [Saves, ← same]

/-! ## One scenario -/

theorem writings_publishAs (simulation : Simulation) (sender : String) (message : Message) :
    (simulation.publishAs sender message).2.writings = simulation.writings := by
  unfold publishAs
  split <;> rfl

theorem writings_announce (simulation : Simulation) (scenario : Scenario) :
    (simulation.announce scenario).writings = simulation.writings := by
  unfold announce
  split <;> rfl

variable (saving)

theorem saves_record (simulation : Simulation) (number : Nat) (scenario : Scenario)
    (cascade : Cascade) (value : α) :
    Saves saving simulation
      (do return (value, ← simulation.recordOn saving number scenario cascade))
      (value, simulation.record number scenario cascade) := by
  unfold recordOn record
  cases simulation.settings.recordFolder with
  | none =>
    rw [pure_bind]
    exact saves_pure rfl
  | some folder =>
    rw [bind_assoc]
    refine saves_file (fun outcome => ?_) rfl
    cases outcome <;> exact pure_bind _ _

theorem saves_runScenario (simulation : Simulation) (number : Nat) (scenario : Scenario) :
    Saves saving simulation (simulation.runScenarioOn saving number scenario)
      (simulation.runScenario number scenario) := by
  have same := writings_publishAs simulation scenario.sender scenario.message
  unfold runScenarioOn runScenario
  generalize simulation.publishAs scenario.sender scenario.message = publication at same ⊢
  obtain ⟨failure | cascade, published⟩ := publication
  · exact saves_pure same
  · exact (saves_record saving published number scenario cascade _).of_writings_eq same

/-! ## All scenarios -/

theorem saves_runFrom (simulation : Simulation) (number : Nat) (scenarios : List Scenario) :
    Saves saving simulation (simulation.runFromOn saving number scenarios)
      (simulation.runFrom number scenarios) := by
  induction scenarios generalizing simulation number with
  | nil => exact saves_pure rfl
  | cons scenario rest ih =>
    -- the heading goes to the console and adds no file
    have announced := (saves_runScenario saving (simulation.announce scenario) number
      scenario).of_writings_eq (writings_announce simulation scenario)
    rw [runFromOn, runFrom]
    refine announced.bind ?_
    rcases (simulation.announce scenario).runScenario number scenario with
      ⟨failure | cascade, after⟩
    · exact saves_pure rfl
    · refine (ih after (number + 1)).bind ?_
      dsimp only
      rcases after.runFrom (number + 1) rest with ⟨failure | cascades, last⟩
      · exact saves_pure rfl
      · exact saves_pure rfl

theorem saves_run (simulation : Simulation) (scenarios : List Scenario) :
    Saves saving simulation (simulation.runOn saving scenarios) (simulation.run scenarios) := by
  rw [runOn, run]
  refine (saves_runFrom saving simulation 0 scenarios).bind ?_
  rcases simulation.runFrom 0 scenarios with ⟨failure | cascades, after⟩
  · exact saves_pure rfl
  · dsimp only [reportOn, report]
    cases after.settings.statisticsFile with
    | none =>
      rw [pure_bind]
      exact saves_pure rfl
    | some output =>
      rw [bind_assoc]
      exact saves_file (fun outcome => pure_bind _ _) rfl

end Simulation

end GatewaySim
