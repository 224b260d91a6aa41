import GatewaySim.Proofs.Simulation.Effects

/-! # The life of a simulation

Once created, a simulation is used step after step: modules are registered, messages are published
and scenarios are run, with success or without. `LeadsTo` says what becomes of a simulation while
its bus emits some events: it stays coherent, and the statistics count these events and no others.
Every step is such a change (`leadsTo_perform`), and so is a whole life (`leadsTo_performAll`).
-/

namespace GatewaySim

inductive Step where
  | register (module : Module)
  | publishAs (sender : String) (message : Message)
  | runScenario (number : Nat) (scenario : Scenario)
  | run (scenarios : List Scenario)
  | flush

namespace Step

def grow (bus : Bus) : Step → Bus
  | .register module => (bus.register module).2
  | _ => bus

def cascades (bus : Bus) : Step → List Cascade
  | .publishAs sender message => (bus.publishAs? sender message).toList
  | .runScenario _ scenario => (bus.cascade? scenario).toList
  | .run scenarios => (bus.ran scenarios).map Prod.snd
  | .register _ | .flush => []

def emitted (bus : Bus) : List Step → List Event
  | [] => []
  | step :: rest => (step.cascades bus).flatMap Cascade.events ++ emitted (step.grow bus) rest

end Step

namespace Simulation

def perform (simulation : Simulation) : Step → Simulation
  | .register module => (simulation.register module).2
  | .publishAs sender message => (simulation.publishAs sender message).2
  | .runScenario number scenario => (simulation.runScenario number scenario).2
  | .run scenarios => (simulation.run scenarios).2
  | .flush => simulation.flush.2

def performAll (simulation : Simulation) (steps : List Step) : Simulation :=
  steps.foldl perform simulation

/-- What becomes of a simulation while its bus grows into another and emits some events. -/
structure LeadsTo (before : Simulation) (bus : Bus) (events : List Event) (after : Simulation) :
    Prop where
  coherent : after.Coherent
  settings : after.settings = before.settings
  bus : after.observed.bus = bus
  statistics : before.settings.statisticsFile.isSome →
    after.instruments.statistics = events.foldl Statistics.count before.instruments.statistics

variable {simulation : Simulation}

theorem LeadsTo.refl (coherent : simulation.Coherent) :
    LeadsTo simulation simulation.observed.bus [] simulation :=
  ⟨coherent, rfl, rfl, fun _ => rfl⟩

theorem LeadsTo.trans {first middle last : Simulation} {bus later : Bus}
    {events others : List Event} (before : LeadsTo first bus events middle)
    (after : LeadsTo middle later others last) : LeadsTo first later (events ++ others) last where
  coherent := after.coherent
  settings := after.settings.trans before.settings
  bus := after.bus
  statistics := by
    intro counted
    have still : middle.settings.statisticsFile.isSome := by rw [before.settings, counted]
    rw [after.statistics still, before.statistics counted, List.foldl_append]

theorem leadsTo_extended (coherent : simulation.Coherent) (text : String) (events : List Event)
    (files : List Writing) :
    LeadsTo simulation simulation.observed.bus events (simulation.extended text events files) where
  coherent := coherent.extended text events files
  settings := rfl
  bus := rfl
  statistics := statistics_extended

/-! ## One step -/

theorem modules_ofConfig (part : Config) : (Bus.ofConfig part).modules = [] := by
  unfold Bus.ofConfig
  split <;> rfl

theorem coherent_create (config : Config) (isFolder : String → Bool) :
    (create config isFolder).Coherent := by
  refine ⟨rfl, ?_, rfl⟩
  show [] = List.reverse _
  simp [create, observe, modules_ofConfig]

theorem leadsTo_register (coherent : simulation.Coherent) (module : Module) :
    LeadsTo simulation (simulation.observed.bus.register module).2 []
      (simulation.register module).2 where
  coherent := by
    refine ⟨congrArg (fun observed => (observed.register module).2) coherent.observed, ?_,
      coherent.working⟩
    -- the new module has the highest identity, and its name comes first
    show (module.name, simulation.observed.bus.modules.length) :: simulation.identities =
      (((simulation.observed.bus.modules ++ [module]).zipIdx).map _).reverse
    rw [List.zipIdx_append, List.map_append, List.reverse_append, ← coherent.identities]
    simp
  settings := rfl
  bus := rfl
  statistics := fun _ => rfl

theorem coherent_registerEach (coherent : simulation.Coherent) (modules : List GatewayModule) :
    (simulation.registerEach modules).2.Coherent := by
  induction modules generalizing simulation with
  | nil => exact coherent
  | cons module rest ih => exact ih (leadsTo_register coherent module.toModule).coherent

/-- A publication emits one cascade, or it fails and changes nothing. -/
theorem leadsTo_publication (coherent : simulation.Coherent) (found : Option Cascade)
    (failure : Failure) (files : Cascade → List Writing) :
    LeadsTo simulation simulation.observed.bus (found.toList.flatMap Cascade.events)
      (match found with
        | none => ((.error failure : Except Failure Cascade), simulation)
        | some cascade =>
          (.ok cascade, simulation.extended (Trace.cascadeText cascade) cascade.events
            (files cascade))).2 := by
  cases found with
  | none => exact .refl coherent
  | some cascade =>
    rw [Option.toList_some, List.flatMap_singleton]
    exact leadsTo_extended coherent _ _ _

theorem leadsTo_run (coherent : simulation.Coherent) (scenarios : List Scenario) :
    LeadsTo simulation simulation.observed.bus (simulation.observed.bus.runEvents scenarios)
      (simulation.run scenarios).2 := by
  rw [run_eq coherent]
  exact leadsTo_extended coherent _ _ _

theorem leadsTo_flush (coherent : simulation.Coherent) :
    LeadsTo simulation simulation.observed.bus [] simulation.flush.2 where
  coherent := ⟨coherent.observed, coherent.identities, coherent.working⟩
  settings := rfl
  bus := rfl
  statistics := fun _ => rfl

theorem leadsTo_perform (coherent : simulation.Coherent) (step : Step) :
    LeadsTo simulation (step.grow simulation.observed.bus)
      ((step.cascades simulation.observed.bus).flatMap Cascade.events)
      (simulation.perform step) := by
  cases step with
  | register module => exact leadsTo_register coherent module
  | publishAs sender message =>
    rw [perform, publishAs_eq coherent]
    exact leadsTo_publication coherent _ _ _
  | runScenario number scenario =>
    rw [perform, runScenario_eq coherent]
    exact leadsTo_publication coherent _ _ _
  | run scenarios =>
    rw [Step.cascades, List.flatMap_map, ← Bus.runEvents]
    exact leadsTo_run coherent scenarios
  | flush => exact leadsTo_flush coherent

/-! ## All steps -/

/-- Whatever is done with a simulation, the statistics have counted every event that its bus
emitted. -/
theorem leadsTo_performAll (coherent : simulation.Coherent) (steps : List Step) :
    LeadsTo simulation (steps.foldl Step.grow simulation.observed.bus)
      (Step.emitted simulation.observed.bus steps) (simulation.performAll steps) := by
  induction steps generalizing simulation with
  | nil => exact .refl coherent
  | cons step rest ih =>
    have first := leadsTo_perform coherent step
    have behind := ih first.coherent
    rw [first.bus] at behind
    exact first.trans behind

end Simulation

end GatewaySim
