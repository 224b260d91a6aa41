import GatewaySim.Proofs.Bus.Shape
import GatewaySim.Proofs.Simulation.Answers
import Mathlib.Order.Bounds.Basic

/-! # Names and identities of the modules

A simulation knows its modules twice: its bus has them by identity, and the simulation itself has
their identities by name. The two are changed one after the other, and never say different things:
a name leads to the last module that has it, whatever has been published in between
(`modules_by_name`).
-/

namespace GatewaySim

def identitiesOf (modules : List Module) (name : String) : Set ModuleId :=
  {id | ∃ module, modules[id]? = some module ∧ module.name = name}

theorem identitiesOf_nil (name : String) : identitiesOf [] name = ∅ := by
  simp [identitiesOf]

theorem lt_length_of_mem_identitiesOf {modules : List Module} {name : String} {id : ModuleId}
    (member : id ∈ identitiesOf modules name) : id < modules.length := by
  obtain ⟨module, found, _⟩ := member
  exact (List.getElem?_eq_some_iff.mp found).1

theorem mem_identitiesOf_append {modules : List Module} {module : Module} {name : String}
    {id : ModuleId} :
    id ∈ identitiesOf (modules ++ [module]) name ↔
      id ∈ identitiesOf modules name ∨ id = modules.length ∧ module.name = name := by
  constructor
  · intro member
    obtain ⟨found, place, named⟩ := member
    rcases Nat.lt_or_ge id modules.length with before | behind
    · rw [List.getElem?_append_left before] at place
      exact .inl ⟨found, place, named⟩
    · have last := lt_length_of_mem_identitiesOf ⟨found, place, named⟩
      rw [List.length_append, List.length_singleton] at last
      obtain rfl : id = modules.length := Nat.le_antisymm (Nat.le_of_lt_succ last) behind
      rw [List.getElem?_concat_length, Option.some.injEq] at place
      exact .inr ⟨rfl, place ▸ named⟩
  · intro member
    rcases member with earlier | ⟨rfl, named⟩
    · have before := lt_length_of_mem_identitiesOf earlier
      obtain ⟨found, place, named⟩ := earlier
      exact ⟨found, (List.getElem?_append_left before).trans place, named⟩
    · exact ⟨module, List.getElem?_concat_length, named⟩

namespace Bus

variable {bus : Bus}

/-- A name leads to the greatest of the identities that have it. -/
theorem lastNamed?_eq_some_iff {name : String} {id : ModuleId} :
    bus.lastNamed? name = some id ↔ IsGreatest (identitiesOf bus.modules name) id := by
  obtain ⟨modules, limit⟩ := bus
  induction modules using List.reverseRecOn with
  | nil => simp [lastNamed?, identitiesOf_nil, IsGreatest]
  | append_singleton modules module ih =>
    have last : lastNamed? ⟨modules ++ [module], limit⟩ name =
        if module.name = name then some modules.length else lastNamed? ⟨modules, limit⟩ name :=
      @lastNamed?_register ⟨modules, limit⟩ module name
    rw [last]
    by_cases named : module.name = name
    · have greatest : IsGreatest (identitiesOf (modules ++ [module]) name) modules.length := by
        refine ⟨mem_identitiesOf_append.mpr (.inr ⟨rfl, named⟩), ?_⟩
        intro other member
        rcases mem_identitiesOf_append.mp member with earlier | ⟨rfl, _⟩
        · exact Nat.le_of_lt (lt_length_of_mem_identitiesOf earlier)
        · exact Nat.le_refl _
      rw [if_pos named, Option.some.injEq]
      constructor
      · rintro rfl
        exact greatest
      · exact greatest.unique
    · have same : identitiesOf (modules ++ [module]) name = identitiesOf modules name := by
        ext other
        rw [mem_identitiesOf_append, or_iff_left fun behind => named behind.2]
      rw [if_neg named, same, ih]

theorem lastNamed?_eq_none_iff_identitiesOf {name : String} :
    bus.lastNamed? name = none ↔ identitiesOf bus.modules name = ∅ := by
  rw [lastNamed?_eq_none_iff, List.mem_map, Set.eq_empty_iff_forall_notMem]
  constructor
  · intro unknown id member
    obtain ⟨module, found, named⟩ := member
    exact unknown ⟨module, List.mem_of_getElem? found, named⟩
  · intro unknown known
    obtain ⟨module, member, named⟩ := known
    obtain ⟨id, found⟩ := List.getElem?_of_mem member
    exact unknown id ⟨module, found, named⟩

/-! ## Who receives the seed -/

/-- The first publication is the seed, and no other has its number. -/
theorem mem_publications_and_index_eq_zero_iff {sender : ModuleId} {seed : Message}
    {p : Publication} :
    p ∈ (bus.publish sender seed).publications ∧ p.index = 0 ↔
      p = bus.publication 0 ⟨sender, seed, 0⟩ := by
  have first : bus.served sender seed = ⟨sender, seed, 0⟩ ::
      (List.range' 1 bus.hopLimit.toNat).flatMap (bus.waiting sender seed) := by
    rw [served, List.range_eq_range', List.range'_succ, List.flatMap_cons]
    rfl
  rw [publish_publications, first, List.zipIdx_cons, List.map_cons, List.mem_cons]
  constructor
  · intro found
    obtain ⟨rfl | behind, index⟩ := found
    · rfl
    · obtain ⟨entry, member, rfl⟩ := List.mem_map.mp behind
      have later := List.le_snd_of_mem_zipIdx member
      simp only [publication] at index
      omega
  · rintro rfl
    exact ⟨.inl rfl, rfl⟩

/-- The seed reaches every module but the one that has the sender's identity. -/
theorem mem_receipts_and_publication_eq_zero_iff {sender : ModuleId} {seed : Message}
    {receipt : Receipt} :
    receipt ∈ (bus.publish sender seed).receipts ∧ receipt.publication = 0 ↔
      ∃ id module, bus.modules[id]? = some module ∧ id ≠ sender ∧
        ∃ reaction, reaction ∈ module.receive seed ∧
          receipt = ⟨0, 0, id, module.name, reaction.rule, seed⟩ := by
  rw [mem_receipts_iff]
  constructor
  · intro received
    obtain ⟨⟨p, published, id, module, found, other, reaction, reacts, rfl⟩, index⟩ := received
    obtain rfl := mem_publications_and_index_eq_zero_iff.mp ⟨published, index⟩
    exact ⟨id, module, found, other, reaction, reacts, rfl⟩
  · intro received
    obtain ⟨id, module, found, other, reaction, reacts, rfl⟩ := received
    have published : bus.publication 0 ⟨sender, seed, 0⟩ ∈ (bus.publish sender seed).publications :=
      (mem_publications_and_index_eq_zero_iff.mpr rfl).1
    exact ⟨⟨_, published, id, module, found, other, reaction, reacts, rfl⟩, rfl⟩

end Bus

/-! ## Registering and publishing -/

/-- What is done with a simulation: a step, or a message that its bus publishes for whoever has an
identity. -/
inductive Use where
  | step (step : Step)
  | publish (sender : ModuleId) (message : Message)

def Use.module? : Use → Option Module
  | .step (.register module) => some module
  | _ => none

def Answer.id? : Answer → Option ModuleId
  | .registered id => some id
  | _ => none

namespace Simulation

def use (simulation : Simulation) : Use → Answer × Simulation
  | .step step => simulation.respond step
  | .publish sender message =>
    let (cascade, instruments) := simulation.observed.publish simulation.instruments sender message
    (.published (.ok cascade), { simulation with instruments })

def useAll (simulation : Simulation) : List Use → List Answer × Simulation
  | [] => ([], simulation)
  | use :: rest =>
    let (answer, simulation) := simulation.use use
    let (answers, simulation) := simulation.useAll rest
    (answer :: answers, simulation)

/-- What becomes of a simulation while modules join its bus, which are given the identities. -/
structure Registers (before : Simulation) (joined : List Module) (given : List ModuleId)
    (after : Simulation) : Prop where
  coherent : after.Coherent
  modules : after.observed.bus.modules = before.observed.bus.modules ++ joined
  ids : given = List.range' before.observed.bus.modules.length joined.length

variable {simulation : Simulation}

theorem Registers.of_grow {after : Simulation} (coherent : after.Coherent)
    (same : after.observed.bus = simulation.observed.bus) : Registers simulation [] [] after :=
  ⟨coherent, by rw [same, List.append_nil], rfl⟩

theorem Registers.trans {first middle last : Simulation} {joined others : List Module}
    {given behind : List ModuleId} (before : Registers first joined given middle)
    (after : Registers middle others behind last) :
    Registers first (joined ++ others) (given ++ behind) last where
  coherent := after.coherent
  modules := by rw [after.modules, before.modules, List.append_assoc]
  ids := by
    rw [before.ids, after.ids, before.modules, List.length_append, List.length_append,
      List.range'_append_1]

theorem registers_respond (coherent : simulation.Coherent) (step : Step) :
    Registers simulation (Use.step step).module?.toList (simulation.respond step).1.id?.toList
      (simulation.respond step).2 := by
  have grown := leadsTo_perform coherent step
  rw [← respond_snd] at grown
  cases step with
  | register module => exact ⟨grown.coherent, congrArg Bus.modules grown.bus, rfl⟩
  | publishAs | runScenario | run | flush => exact .of_grow grown.coherent grown.bus

theorem registers_publish (coherent : simulation.Coherent) (sender : ModuleId)
    (message : Message) :
    Registers simulation [] [] (simulation.use (.publish sender message)).2 := by
  have printed : (simulation.use (.publish sender message)).2 =
      simulation.extended (Trace.cascadeText (simulation.observed.bus.publish sender message))
        (simulation.observed.bus.publish sender message).events [] := by
    simp only [use, ObservedBus.publish_eq, extended, List.append_nil]
    rw [coherent.observed, foldl_notify, Console.foldl_report]
    rfl
  rw [printed]
  exact .of_grow (coherent.extended ..) rfl

theorem registers_use (coherent : simulation.Coherent) (use : Use) :
    Registers simulation use.module?.toList (simulation.use use).1.id?.toList
      (simulation.use use).2 := by
  cases use with
  | step step => exact registers_respond coherent step
  | publish sender message => exact registers_publish coherent sender message

theorem registers_useAll (coherent : simulation.Coherent) (uses : List Use) :
    Registers simulation (uses.filterMap Use.module?)
      ((simulation.useAll uses).1.filterMap Answer.id?) (simulation.useAll uses).2 := by
  induction uses generalizing simulation with
  | nil => exact .of_grow coherent rfl
  | cons use rest ih =>
    have first := registers_use coherent use
    have both := first.trans (ih first.coherent)
    simp only [List.filterMap_eq_flatMap_toList, useAll, List.flatMap_cons] at both ⊢
    exact both

/-! ## Modules by name -/

/-- However a new simulation is used, the modules that it registers get the identities 0, 1, 2 and
so on, and its bus has them under these. A name leads to the last module that has it. Publishing
under a name fails if no module has it; otherwise the bus publishes for that last module, and every
other module receives the message, whatever it is called. -/
theorem modules_by_name (config : Config) (isFolder : String → Bool) (uses : List Use) :
    let answers := ((create config isFolder).useAll uses).1
    let after := ((create config isFolder).useAll uses).2
    let registered := uses.filterMap Use.module?
    let ids := answers.filterMap Answer.id?
    ids = List.range registered.length ∧
      after.observed.bus.modules.zipIdx = registered.zip ids ∧
      ∀ name,
        (∀ id, after.moduleId? name = some id ↔ IsGreatest (identitiesOf registered name) id) ∧
        (after.moduleId? name = none ↔ identitiesOf registered name = ∅) ∧
        ∀ message,
          (∀ failure, (after.publishAs name message).1 = .error failure ↔
            identitiesOf registered name = ∅ ∧ failure = .notRegistered name) ∧
          ∀ id, after.moduleId? name = some id →
            let cascade := after.observed.bus.publish id message
            (after.publishAs name message).1 = .ok cascade ∧
              ∀ receipt, receipt ∈ cascade.receipts ∧ receipt.publication = 0 ↔
                ∃ other module, registered[other]? = some module ∧ other ≠ id ∧
                  ∃ reaction, reaction ∈ module.receive message ∧
                    receipt = ⟨0, 0, other, module.name, reaction.rule, message⟩ := by
  intro answers after registered ids
  have life := registers_useAll (coherent_create config isFolder) uses
  have empty : (create config isFolder).observed.bus.modules = [] := modules_ofConfig _
  have modules : after.observed.bus.modules = registered := by
    rw [life.modules, empty, List.nil_append]
  have numbers : ids = List.range registered.length := by
    have numbered := life.ids
    rw [empty, List.length_nil, ← List.range_eq_range'] at numbered
    exact numbered
  have unknown (name : String) :
      after.moduleId? name = none ↔ identitiesOf registered name = ∅ := by
    rw [moduleId?_eq life.coherent, Bus.lastNamed?_eq_none_iff_identitiesOf, modules]
  refine ⟨numbers, ?_, fun name => ⟨fun id => ?_, unknown name, fun message => ⟨?_, ?_⟩⟩⟩
  · rw [modules, numbers, List.zipIdx_eq_zip_range', ← List.range_eq_range']
  · rw [moduleId?_eq life.coherent, Bus.lastNamed?_eq_some_iff, modules]
  · intro failure
    rw [← unknown, publishAs]
    cases after.moduleId? name with
    | none => simp [eq_comm]
    | some id => simp
  · intro id found cascade
    constructor
    · rw [publishAs, found]
      simp [cascade]
    · intro receipt
      rw [Bus.mem_receipts_and_publication_eq_zero_iff, modules]

/-- Two modules of one name. A message that the name publishes comes from the second of them, and
the first one receives it. -/
theorem modules_by_name_twins :
    let twin : Module := { name := "twin", receive := fun _ => [.report "seen"] }
    let uses : List Use :=
      [.step (.register twin), .step (.publishAs "twin" .empty), .publish 7 .empty,
        .step (.register twin)]
    let after := ((create {} fun _ => false).useAll uses).2
    let cascade := after.observed.bus.publish 1 .empty
    after.moduleId? "twin" = some 1 ∧ (after.publishAs "twin" .empty).1 = .ok cascade ∧
      ⟨0, 0, 0, "twin", "seen", .empty⟩ ∈ cascade.receipts ∧
      ∀ receipt, receipt ∈ cascade.receipts → receipt.publication = 0 →
        receipt.receiver ≠ 1 := by
  intro twin uses after cascade
  obtain ⟨_, _, named⟩ := modules_by_name {} (fun _ => false) uses
  have last : after.moduleId? "twin" = some 1 :=
    ((named "twin").1 1).mpr
      ⟨⟨twin, rfl, rfl⟩, fun _ member => Nat.le_of_lt_succ (lt_length_of_mem_identitiesOf member)⟩
  obtain ⟨answer, receipts⟩ := ((named "twin").2.2 .empty).2 1 last
  refine ⟨last, answer, ?_, ?_⟩
  · exact ((receipts _).mpr ⟨0, twin, rfl, Nat.zero_ne_one, .report "seen",
      List.mem_singleton_self _, rfl⟩).1
  · intro receipt received first
    obtain ⟨other, module, _, differs, reaction, _, rfl⟩ := (receipts receipt).mp ⟨received, first⟩
    exact differs

end Simulation

end GatewaySim
