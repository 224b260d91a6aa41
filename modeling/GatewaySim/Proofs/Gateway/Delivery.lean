import GatewaySim.Proofs.Bus.Shape
import GatewaySim.Proofs.Gateway.Rewrites

/-! # Messages that reach a hub

What one module writes is what the next one asks for. An address becomes device credentials and
these become hub credentials, so the cloud hub gets every message from a device, and the answer of
every device that it asks (`delivers_to_iotHub`); a request for a device goes out over the radio,
whose answer the worker passes on to the management hub (`answers_request`). Nothing that the other
modules derive on the way gets in between.
-/

namespace GatewaySim

open Gateway

/-- Somewhere in the cascade, `hop` derivations from the seed, the hub keeps the message. -/
def Cascade.Delivers (cascade : Cascade) (hub : ModuleId) (name : String) (hop : UInt32)
    (message : Message) : Prop :=
  ∃ index : Nat,
    ({ publication := index
       hop := hop
       receiver := hub
       receiverName := name
       rule := Rule.terminal
       message := message } : Receipt) ∈ cascade.receipts

namespace Bus

/-- A module of the given kind sends the message `depth` derivations below the seed. -/
def Reaches (modules : List GatewayModule) (limit : UInt32) (sender : ModuleId) (seed : Message)
    (depth : Nat) (module : GatewayModule) (message : Message) : Prop :=
  ∃ id, modules[id]? = some module ∧
    (id, message) ∈ (ofGateway modules limit).level sender seed depth

variable {modules : List GatewayModule} {limit : UInt32} {sender hub : ModuleId}
  {seed m derived : Message} {depth : Nat} {module previous : GatewayModule}

/-! ## Along a path of modules -/

/-- The first module on a path must be another one than the sender of the seed. -/
theorem reaches_one (limit : UInt32) (registered : module ∈ modules)
    (apart : modules[sender]? ≠ some module) (rewrites : Rewrites module seed derived) :
    Reaches modules limit sender seed 1 module derived := by
  obtain ⟨id, found⟩ := List.mem_iff_getElem?.mp registered
  have other : id ≠ sender := fun same => apart (same ▸ found)
  have start : (sender, seed) ∈ (ofGateway modules limit).level sender seed 0 :=
    List.mem_singleton_self _
  exact ⟨id, found, mem_level_succ_of_rewrites start other found rewrites⟩

theorem Reaches.step (reaches : Reaches modules limit sender seed depth previous m)
    (registered : module ∈ modules) (other : module ≠ previous)
    (rewrites : Rewrites module m derived) :
    Reaches modules limit sender seed (depth + 1) module derived := by
  obtain ⟨parent, place, above⟩ := reaches
  obtain ⟨id, found⟩ := List.mem_iff_getElem?.mp registered
  have differs : id ≠ parent := by
    rintro rfl
    exact other (Option.some.inj (found.symm.trans place))
  exact ⟨id, found, mem_level_succ_of_rewrites above differs found rewrites⟩

/-- At the end of a path within the hop limit, every hub that keeps the message receives it. -/
theorem Reaches.delivers (reaches : Reaches modules limit sender seed depth previous m)
    (bound : depth ≤ limit.toNat) (found : modules[hub]? = some module)
    (other : module ≠ previous) (keeps : .report Rule.terminal ∈ module.receive m) :
    ((ofGateway modules limit).publish sender seed).Delivers hub module.name (UInt32.ofNat depth)
      m := by
  obtain ⟨parent, place, above⟩ := reaches
  have within : depth ≤ (ofGateway modules limit).hopLimit.toNat := by simpa using bound
  obtain ⟨p, published, hop, rfl, rfl⟩ := exists_publication_of_mem_level within above
  have differs : hub ≠ p.sender := by
    intro same
    rw [← same, found] at place
    exact other (Option.some.inj place)
  have registered : (ofGateway modules limit).modules[hub]? = some module.toModule := by
    simp [found]
  have sameHop : p.hop = UInt32.ofNat depth := by rw [← hop, UInt32.ofNat_toNat]
  refine ⟨p.index, mem_receipts_iff.mpr ⟨p, published, hub, _, registered, differs, _, keeps, ?_⟩⟩
  simp [Publication.receiptAt, sameHop, GatewayModule.toModule, Reaction.report]

/-! ## To the cloud hub -/

/-- A message for the cloud hub, or for nobody in particular, that gives the address of a device
gets there by way of the id map and the router. -/
theorem delivers_of_address (idMap : .idMap ∈ modules) (router : .router ∈ modules)
    (iotHub : modules[hub]? = some .iotHub) (apart : modules[sender]? ≠ some .idMap)
    (two : 2 ≤ limit.toNat) (macAddress : seed.macAddress.isSome)
    (addressed : seed.dest = none ∨ seed.dest = some "IoTHub") :
    ((ofGateway modules limit).publish sender seed).Delivers hub "IoTHub" 2
      { seed with
        dest := "IoTHub"
        iotId := "IoTHub"
        iotKey := "IoTHub"
        macAddress := none
        deviceId := none
        deviceKey := none } := by
  have named := reaches_one limit idMap apart (.named macAddress)
  have routed := named.step router (by decide) (.routed addressed rfl rfl)
  exact routed.delivers two iotHub (by decide) (mem_receive_iotHub_iff.mpr ⟨⟨rfl, rfl, rfl⟩, rfl⟩)

/-- The radio's answer is for the cloud hub, or for nobody, if the question was from it or from
nobody. -/
theorem answerTo_of_cloud {source : Option String}
    (cloud : source = none ∨ source = some "" ∨ source = some "IoTHub") :
    answerTo source = none ∨ answerTo source = some "IoTHub" := by
  rcases cloud with rfl | rfl | rfl
  · exact .inl rfl
  · exact .inl rfl
  · exact .inr rfl

/-- A device that is asked by its id answers, and the answer gets to the cloud hub. -/
theorem delivers_of_device (idMap : .idMap ∈ modules) (router : .router ∈ modules)
    (simBle : .simBle ∈ modules) (iotHub : modules[hub]? = some .iotHub)
    (apart : modules[sender]? ≠ some .idMap) (four : 4 ≤ limit.toNat)
    (deviceId : seed.deviceId.isSome) (uuid : seed.uuid.isSome)
    (cloud : seed.src = none ∨ seed.src = some "" ∨ seed.src = some "IoTHub") :
    ((ofGateway modules limit).publish sender seed).Delivers hub "IoTHub" 4
      { src := "BLE"
        dest := "IoTHub"
        iotId := "IoTHub"
        iotKey := "IoTHub"
        uuid := "UUID" } := by
  have located := reaches_one limit idMap apart (.located deviceId)
  have answered := located.step simBle (by decide) (.answered uuid rfl)
  have named := answered.step idMap (by decide) (.named rfl)
  have routed := named.step router (by decide) (.routed (answerTo_of_cloud cloud) rfl rfl)
  exact routed.delivers four iotHub (by decide) (mem_receive_iotHub_iff.mpr ⟨⟨rfl, rfl, rfl⟩, rfl⟩)

/-- On a bus of gateway modules with an id map and a router, every cloud hub keeps what devices send
to it, unless the hop limit is below two; with a radio and a limit of four it also keeps the answer
to what it asks of a device. The seed may say what it likes in all other fields. -/
theorem delivers_to_iotHub {modules : List GatewayModule} {sender hub : ModuleId}
    (idMap : .idMap ∈ modules) (router : .router ∈ modules)
    (iotHub : modules[hub]? = some .iotHub) (apart : modules[sender]? ≠ some .idMap) :
    (∀ (limit : UInt32) (seed : Message), 2 ≤ limit → seed.macAddress.isSome →
      seed.dest = none ∨ seed.dest = some "IoTHub" →
      ((ofGateway modules limit).publish sender seed).Delivers hub "IoTHub" 2
        { seed with
          dest := "IoTHub"
          iotId := "IoTHub"
          iotKey := "IoTHub"
          macAddress := none
          deviceId := none
          deviceKey := none }) ∧
    (.simBle ∈ modules → ∀ (limit : UInt32) (seed : Message), 4 ≤ limit →
      seed.deviceId.isSome → seed.uuid.isSome →
      seed.src = none ∨ seed.src = some "" ∨ seed.src = some "IoTHub" →
      ((ofGateway modules limit).publish sender seed).Delivers hub "IoTHub" 4
        { src := "BLE"
          dest := "IoTHub"
          iotId := "IoTHub"
          iotKey := "IoTHub"
          uuid := "UUID" }) := by
  constructor
  · intro limit seed two macAddress addressed
    have bound : 2 ≤ limit.toNat := UInt32.le_iff_toNat_le.mp two
    exact delivers_of_address idMap router iotHub apart bound macAddress addressed
  · intro simBle limit seed four deviceId uuid cloud
    have bound : 4 ≤ limit.toNat := UInt32.le_iff_toNat_le.mp four
    exact delivers_of_device idMap router simBle iotHub apart bound deviceId uuid cloud

/-- Seeds that more rules than those on the way react to, on a bus with several of each module. -/
theorem delivers_to_iotHub_crowded :
    let modules : List GatewayModule :=
      [.iotHub, .dmWorker, .router, .simBle, .idMap, .iotHub, .simBle, .idMap]
    let sensed : Message := { src := "BLE", deviceId := "id", macAddress := "02:02", uuid := "" }
    let asked : Message :=
      { src := "", dest := "BLE", deviceId := "id", uuid := "", dmId := "", request := "" }
    .idMap ∈ modules ∧ .router ∈ modules ∧ .simBle ∈ modules ∧ modules[5]? = some .iotHub ∧
      modules[3]? ≠ some .idMap ∧
      ((ofGateway modules 2).publish 3 sensed).Delivers 5 "IoTHub" 2
        { src := "BLE", dest := "IoTHub", iotId := "IoTHub", iotKey := "IoTHub", uuid := "" } ∧
      ((ofGateway modules 4).publish 3 asked).Delivers 5 "IoTHub" 4
        { src := "BLE"
          dest := "IoTHub"
          iotId := "IoTHub"
          iotKey := "IoTHub"
          uuid := "UUID" } := by
  intro modules sensed asked
  have idMap : .idMap ∈ modules := by decide
  have router : .router ∈ modules := by decide
  have simBle : .simBle ∈ modules := by decide
  have iotHub : modules[5]? = some .iotHub := rfl
  have apart : modules[3]? ≠ some .idMap := by decide
  obtain ⟨device, cloud⟩ := delivers_to_iotHub idMap router iotHub apart
  exact ⟨idMap, router, simBle, iotHub, apart, device 2 sensed (by decide) rfl (.inl rfl),
    cloud simBle 4 asked (by decide) rfl rfl (.inr (.inl rfl))⟩

/-! ## To the management hub -/

/-- Every request for a device is answered. On a bus of gateway modules with a worker, an id map and
a radio, the device's answer is passed on to every management hub, unless the hop limit is below
five. -/
theorem answers_request {modules : List GatewayModule} {sender hub : ModuleId}
    (dmWorker : .dmWorker ∈ modules) (idMap : .idMap ∈ modules) (simBle : .simBle ∈ modules)
    (dmHub : modules[hub]? = some .dmHub) (apart : modules[sender]? ≠ some .dmWorker)
    {limit : UInt32} (five : 5 ≤ limit) {seed : Message} (addressed : seed.dest = some "BLE")
    (dmId : seed.dmId.isSome) (request : seed.request.isSome) :
    ((ofGateway modules limit).publish sender seed).Delivers hub "DMHUB" 5
      { src := "DMWORKER", dest := "DMHUB", deviceId := "name", deviceKey := "key" } := by
  have requested :=
    reaches_one limit dmWorker apart (.requested addressed request dmId)
  have located := requested.step idMap (by decide) (.located dmId)
  -- The worker has put its name on the request, so the radio answers to it.
  have answered := located.step simBle (by decide) (.answered rfl rfl)
  have named := answered.step idMap (by decide) (.named rfl)
  have forwarded := named.step dmWorker (by decide) (.forwarded rfl rfl rfl)
  exact forwarded.delivers (UInt32.le_iff_toNat_le.mp five) dmHub (by decide)
    (mem_receive_dmHub_iff.mpr ⟨⟨rfl, rfl, rfl⟩, rfl⟩)

/-- The request of a device that also gives an address, which has all modules answer at once. -/
theorem answers_request_crowded :
    let modules : List GatewayModule :=
      [.dmHub, .idMap, .router, .dmHub, .simBle, .idMap, .dmWorker, .dmWorker]
    let seed : Message :=
      { src := "DMHUB", dest := "BLE", deviceId := "", macAddress := "02:02", uuid := "",
        dmId := "", request := "" }
    .dmWorker ∈ modules ∧ .idMap ∈ modules ∧ .simBle ∈ modules ∧ modules[3]? = some .dmHub ∧
      modules[1]? ≠ some .dmWorker ∧ (5 : UInt32) ≤ 5 ∧ seed.dest = some "BLE" ∧
      seed.dmId.isSome ∧ seed.request.isSome ∧
      ((ofGateway modules 5).publish 1 seed).Delivers 3 "DMHUB" 5
        { src := "DMWORKER", dest := "DMHUB", deviceId := "name", deviceKey := "key" } := by
  intro modules seed
  have dmWorker : .dmWorker ∈ modules := by decide
  have idMap : .idMap ∈ modules := by decide
  have simBle : .simBle ∈ modules := by decide
  have apart : modules[1]? ≠ some .dmWorker := by decide
  have five : (5 : UInt32) ≤ 5 := by decide
  exact ⟨dmWorker, idMap, simBle, rfl, apart, five, rfl, rfl, rfl,
    answers_request dmWorker idMap simBle rfl apart five rfl rfl rfl⟩

end Bus

end GatewaySim
