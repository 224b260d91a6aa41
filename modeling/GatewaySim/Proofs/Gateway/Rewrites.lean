import GatewaySim.Proofs.Bus.Levels
import GatewaySim.Simulation.Basic

/-! # How the gateway rewrites messages

The republishing rules of the gateway as a relation, one constructor for each rule: what a message
needs for the rule, and what becomes of it. The modules republish exactly what the relation says
(`rewrites_iff`), so on a bus of gateway modules the children of a message are its rewritings by the
modules other than its sender (`mem_children_ofGateway_iff`).
-/

namespace GatewaySim

namespace Gateway

/-- `Rewrites module m derived`: the module turns the message `m` into `derived`. -/
inductive Rewrites : GatewayModule → Message → Message → Prop where
  | routed {m : Message} (addressed : m.dest = none ∨ m.dest = some "IoTHub")
      (deviceId : m.deviceId.isSome) (deviceKey : m.deviceKey.isSome) :
      Rewrites .router m
        { m with
          dest := "IoTHub"
          iotId := "IoTHub"
          iotKey := "IoTHub"
          deviceId := none
          deviceKey := none }
  | located {m : Message} (deviceId : m.deviceId.isSome) :
      Rewrites .idMap m { m with deviceId := none, macAddress := "01:01" }
  | named {m : Message} (macAddress : m.macAddress.isSome) :
      Rewrites .idMap m { m with macAddress := none, deviceId := "name", deviceKey := "key" }
  | answered {m : Message} (uuid : m.uuid.isSome) (macAddress : m.macAddress.isSome) :
      Rewrites .simBle m
        { src := "BLE", dest := answerTo m.src, macAddress := m.macAddress, uuid := "UUID" }
  | forwarded {m : Message} (addressed : m.dest = some "DMWORKER") (deviceId : m.deviceId.isSome)
      (deviceKey : m.deviceKey.isSome) :
      Rewrites .dmWorker m { m with dest := "DMHUB", src := "DMWORKER", uuid := none }
  | requested {m : Message} (addressed : m.dest = some "BLE") (request : m.request.isSome)
      (dmId : m.dmId.isSome) :
      Rewrites .dmWorker m
        { m with
          src := "DMWORKER"
          deviceId := m.dmId
          uuid := "UUID"
          request := none
          dmId := none }

theorem mem_receive_iff {module : GatewayModule} {m : Message} {reaction : Reaction} :
    reaction ∈ module.receive m ↔ ∃ rule, rule ∈ module.rules ∧ rule m = some reaction := by
  rw [GatewayModule.receive, List.mem_filterMap]

/-- A module republishes a message exactly if one of its rules rewrites to it. -/
theorem rewrites_iff {module : GatewayModule} {m derived : Message} :
    Rewrites module m derived ↔
      ∃ reaction, reaction ∈ module.receive m ∧ reaction.republish = some derived := by
  simp only [mem_receive_iff]
  constructor
  · intro rewrites
    cases rewrites with
    | routed addressed deviceId deviceKey =>
      exact ⟨_, ⟨_, List.mem_singleton_self _, if_pos ⟨addressed, deviceId, deviceKey⟩⟩, rfl⟩
    | located deviceId => exact ⟨_, ⟨_, List.mem_cons_self .., if_pos deviceId⟩, rfl⟩
    | named macAddress =>
      exact ⟨_, ⟨_, List.mem_cons_of_mem _ (List.mem_singleton_self _), if_pos macAddress⟩, rfl⟩
    | answered uuid macAddress =>
      exact ⟨_, ⟨_, List.mem_singleton_self _, if_pos ⟨uuid, macAddress⟩⟩, rfl⟩
    | forwarded addressed deviceId deviceKey =>
      exact ⟨_, ⟨_, List.mem_cons_self .., if_pos ⟨addressed, deviceId, deviceKey⟩⟩, rfl⟩
    | requested addressed request dmId =>
      exact ⟨_, ⟨_, List.mem_cons_of_mem _ (List.mem_singleton_self _),
        if_pos ⟨addressed, request, dmId⟩⟩, rfl⟩
  · intro reacted
    obtain ⟨reaction, ⟨rule, place, reacts⟩, republished⟩ := reacted
    cases module <;> simp only [GatewayModule.rules, List.mem_cons, List.not_mem_nil,
      or_false] at place
    case iotHub =>
      subst place
      obtain ⟨_, rfl⟩ := Option.ite_some_none_eq_some.mp reacts
      cases republished
    case dmHub =>
      subst place
      obtain ⟨_, rfl⟩ := Option.ite_some_none_eq_some.mp reacts
      cases republished
    case router =>
      subst place
      obtain ⟨⟨addressed, deviceId, deviceKey⟩, rfl⟩ := Option.ite_some_none_eq_some.mp reacts
      cases republished
      exact .routed addressed deviceId deviceKey
    case simBle =>
      subst place
      obtain ⟨⟨uuid, macAddress⟩, rfl⟩ := Option.ite_some_none_eq_some.mp reacts
      cases republished
      exact .answered uuid macAddress
    case idMap =>
      rcases place with rfl | rfl
      · obtain ⟨deviceId, rfl⟩ := Option.ite_some_none_eq_some.mp reacts
        cases republished
        exact .located deviceId
      · obtain ⟨macAddress, rfl⟩ := Option.ite_some_none_eq_some.mp reacts
        cases republished
        exact .named macAddress
    case dmWorker =>
      rcases place with rfl | rfl
      · obtain ⟨⟨addressed, deviceId, deviceKey⟩, rfl⟩ := Option.ite_some_none_eq_some.mp reacts
        cases republished
        exact .forwarded addressed deviceId deviceKey
      · obtain ⟨⟨addressed, request, dmId⟩, rfl⟩ := Option.ite_some_none_eq_some.mp reacts
        cases republished
        exact .requested addressed request dmId

/-! ## Arrivals -/

theorem mem_receive_iff_of_rules {module : GatewayModule} {rule : Message → Option Reaction}
    (only : module.rules = [rule]) {m : Message} {reaction : Reaction} :
    reaction ∈ module.receive m ↔ rule m = some reaction := by
  simp [mem_receive_iff, only]

/-- The cloud hub keeps what is addressed to it with hub credentials. -/
theorem mem_receive_iotHub_iff {m : Message} {reaction : Reaction} :
    reaction ∈ GatewayModule.iotHub.receive m ↔
      (m.dest = some "IoTHub" ∧ m.iotId.isSome ∧ m.iotKey.isSome) ∧
        .report Rule.terminal = reaction := by
  rw [mem_receive_iff_of_rules rfl, iotHubArrival, Option.ite_some_none_eq_some]

/-- The management hub keeps what is addressed to it with device credentials. -/
theorem mem_receive_dmHub_iff {m : Message} {reaction : Reaction} :
    reaction ∈ GatewayModule.dmHub.receive m ↔
      (m.dest = some "DMHUB" ∧ m.deviceId.isSome ∧ m.deviceKey.isSome) ∧
        .report Rule.terminal = reaction := by
  rw [mem_receive_iff_of_rules rfl, dmHubArrival, Option.ite_some_none_eq_some]

end Gateway

namespace Bus

/-! ## Buses of gateway modules -/

/-- A bus on which the given gateway modules have been registered one after the other. -/
def ofGateway (modules : List GatewayModule) (hopLimit : UInt32) : Bus :=
  modules.foldl (fun bus module => (bus.register module.toModule).2) { hopLimit }

theorem foldl_register (modules : List GatewayModule) (bus : Bus) :
    modules.foldl (fun bus module => (bus.register module.toModule).2) bus =
      { bus with modules := bus.modules ++ modules.map GatewayModule.toModule } := by
  induction modules generalizing bus with
  | nil => simp
  | cons module rest ih =>
    rw [List.foldl_cons, ih]
    simp [register]

theorem ofGateway_eq (modules : List GatewayModule) (hopLimit : UInt32) :
    ofGateway modules hopLimit = ⟨modules.map GatewayModule.toModule, hopLimit⟩ :=
  foldl_register modules { hopLimit }

@[simp] theorem modules_ofGateway (modules : List GatewayModule) (hopLimit : UInt32) :
    (ofGateway modules hopLimit).modules = modules.map GatewayModule.toModule := by
  rw [ofGateway_eq]

@[simp] theorem hopLimit_ofGateway (modules : List GatewayModule) (hopLimit : UInt32) :
    (ofGateway modules hopLimit).hopLimit = hopLimit := by
  rw [ofGateway_eq]

theorem mem_children_ofGateway_iff {modules : List GatewayModule} {hopLimit : UInt32}
    {sender id : ModuleId} {m derived : Message} :
    (id, derived) ∈ (ofGateway modules hopLimit).children sender m ↔
      id ≠ sender ∧ ∃ module, modules[id]? = some module ∧
        Gateway.Rewrites module m derived := by
  rw [mem_children_iff, modules_ofGateway, List.getElem?_map]
  simp only [Option.map_eq_some_iff, Gateway.rewrites_iff]
  constructor
  · intro child
    obtain ⟨other, _, ⟨module, found, rfl⟩, reacts⟩ := child
    exact ⟨other, module, found, reacts⟩
  · intro rewritten
    obtain ⟨other, module, found, reacts⟩ := rewritten
    exact ⟨other, _, ⟨module, found, rfl⟩, reacts⟩

theorem mem_level_succ_of_rewrites {modules : List GatewayModule} {hopLimit : UInt32}
    {sender parent id : ModuleId} {seed m derived : Message} {depth : Nat}
    {module : GatewayModule}
    (above : (parent, m) ∈ (ofGateway modules hopLimit).level sender seed depth)
    (other : id ≠ parent) (found : modules[id]? = some module)
    (rewrites : Gateway.Rewrites module m derived) :
    (id, derived) ∈ (ofGateway modules hopLimit).level sender seed (depth + 1) :=
  mem_level_succ above (mem_children_ofGateway_iff.mpr ⟨other, module, found, rewrites⟩)

end Bus

namespace Simulation

theorem bus_registerEach (simulation : Simulation) (modules : List GatewayModule) :
    (simulation.registerEach modules).2.observed.bus =
      { simulation.observed.bus with
        modules := simulation.observed.bus.modules ++ modules.map GatewayModule.toModule } := by
  induction modules generalizing simulation with
  | nil => simp [registerEach]
  | cons module rest ih =>
    have first : (simulation.register module.toModule).2.observed.bus.modules =
        simulation.observed.bus.modules ++ [module.toModule] := rfl
    calc (simulation.registerEach (module :: rest)).2.observed.bus
      _ = ((simulation.register module.toModule).2.registerEach rest).2.observed.bus := rfl
      _ = _ := by
        rw [ih, first, List.append_assoc]
        rfl

/-- A new simulation on which all modules are registered has the bus of all gateway modules. -/
theorem bus_registerAll_create (config : Config) (isFolder : String → Bool) :
    (create config isFolder).registerAll.2.observed.bus =
      Bus.ofGateway GatewayModule.all (Bus.ofConfig (config.part "bus")).hopLimit := by
  have empty : (Bus.ofConfig (config.part "bus")).modules = [] := by
    unfold Bus.ofConfig
    split <;> rfl
  have observed : (create config isFolder).observed.bus = Bus.ofConfig (config.part "bus") := rfl
  rw [registerAll, bus_registerEach, observed, empty, Bus.ofGateway_eq, List.nil_append]

end Simulation

end GatewaySim
