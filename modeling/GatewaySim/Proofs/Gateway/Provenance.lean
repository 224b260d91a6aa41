import GatewaySim.Proofs.Bus.Causes
import GatewaySim.Proofs.Gateway.Rewrites

/-! # Where the texts of a message come from

However long a cascade of gateway modules, the messages in it say nothing of their own: a field
holds what the seed said there or one of the few texts that rules write. Two texts of the seed move,
the device of a request and the source that a radio answers to; the hub credentials stay together
(`message_provenance`).
-/

namespace GatewaySim

/-- What each field of a message may hold if it was derived, in any number of steps, from the
seed. -/
structure Message.TracedTo (m seed : Message) : Prop where
  src : m.src ∈ [seed.src, some "BLE", some "DMWORKER"]
  dest : m.dest ∈ [none, seed.dest, seed.src, some "IoTHub", some "DMHUB", some "BLE",
    some "DMWORKER"]
  deviceId : m.deviceId ∈ [none, seed.deviceId, seed.dmId, some "name"]
  deviceKey : m.deviceKey ∈ [none, seed.deviceKey, some "key"]
  hubCredentials : (m.iotId, m.iotKey) ∈ [(none, none), (seed.iotId, seed.iotKey),
    (some "IoTHub", some "IoTHub")]
  macAddress : m.macAddress ∈ [none, seed.macAddress, some "01:01"]
  uuid : m.uuid ∈ [none, seed.uuid, some "UUID"]
  dmId : m.dmId ∈ [none, seed.dmId]
  request : m.request ∈ [none, seed.request]

namespace Gateway

open Message (TracedTo)

variable {module : GatewayModule} {seed m derived : Message}

/-! ## What the rules write -/

theorem tracedTo_self (seed : Message) : seed.TracedTo seed := by
  constructor <;> simp

theorem answerTo_eq (source : Option String) :
    answerTo source = none ∨ answerTo source = source := by
  cases source with
  | none => exact .inl rfl
  | some name => by_cases empty : name = "" <;> simp [answerTo, empty]

/-- The radio answers to the source of the seed, or to another radio or worker. -/
theorem answerTo_mem (traced : m.TracedTo seed) :
    answerTo m.src ∈ [none, seed.dest, seed.src, some "IoTHub", some "DMHUB", some "BLE",
      some "DMWORKER"] := by
  rcases answerTo_eq m.src with nobody | source
  · simp [nobody]
  · have src := traced.src
    simp only [List.mem_cons, List.not_mem_nil, or_false] at src
    rw [source]
    rcases src with src | src | src <;> simp [src]

/-- No rule writes what its fields may not hold. -/
theorem Rewrites.tracedTo (rewrites : Rewrites module m derived) (traced : m.TracedTo seed) :
    derived.TracedTo seed := by
  cases rewrites with
  | routed =>
    exact { traced with
      dest := by simp
      hubCredentials := by simp
      deviceId := by simp
      deviceKey := by simp }
  | located => exact { traced with deviceId := by simp, macAddress := by simp }
  | named =>
    exact { traced with macAddress := by simp, deviceId := by simp, deviceKey := by simp }
  | answered =>
    -- A fresh message, of which only the destination and the address were in the received one.
    exact
      { src := by simp
        dest := answerTo_mem traced
        deviceId := by simp
        deviceKey := by simp
        hubCredentials := by simp
        macAddress := traced.macAddress
        uuid := by simp
        dmId := by simp
        request := by simp }
  | forwarded => exact { traced with dest := by simp, src := by simp, uuid := by simp }
  | requested =>
    have device : m.dmId ∈ [none, seed.deviceId, seed.dmId, some "name"] := by
      have dmId := traced.dmId
      simp only [List.mem_cons, List.not_mem_nil, or_false] at dmId
      rcases dmId with dmId | dmId <;> simp [dmId]
    exact { traced with
      src := by simp
      deviceId := device
      uuid := by simp
      request := by simp
      dmId := by simp }

/-! ## Texts that move -/

def writtenTexts : List String :=
  ["IoTHub", "DMHUB", "BLE", "DMWORKER", "name", "key", "01:01", "UUID"]

/-- The fields in which a text of the seed may turn up. -/
def movesTo : Field → List Field
  | .dmId => [.dmId, .deviceId]
  | .src => [.src, .dest]
  | field => [field]

/-- A text that is present was written by a rule or stood in one of the given fields of the seed. -/
theorem origin_of_mem {value : Option String} {text : String} {field : Field}
    (fields : List Field) (texts : List String)
    (held : value ∈ none :: (fields.map seed.get ++ texts.map some)) (holds : value = some text)
    (written : texts ⊆ writtenTexts)
    (moves : ∀ origin, origin ∈ fields → field ∈ movesTo origin) :
    text ∈ writtenTexts ∨ ∃ origin, seed.get origin = some text ∧ field ∈ movesTo origin := by
  subst holds
  simp only [List.mem_cons, reduceCtorEq, false_or, List.mem_append, List.mem_map] at held
  rcases held with ⟨origin, member, same⟩ | ⟨other, member, same⟩
  · exact .inr ⟨origin, same, moves origin member⟩
  · exact .inl (written (Option.some.inj same ▸ member))

/-- A text of the seed stays in its field, but for the device of a request and the source. -/
theorem exists_origin (traced : m.TracedTo seed) {field : Field} {text : String}
    (holds : m.get field = some text) :
    text ∈ writtenTexts ∨ ∃ origin, seed.get origin = some text ∧ field ∈ movesTo origin := by
  have iotId : m.iotId ∈ [none, seed.iotId, some "IoTHub"] :=
    List.mem_map_of_mem (f := Prod.fst) traced.hubCredentials
  have iotKey : m.iotKey ∈ [none, seed.iotKey, some "IoTHub"] :=
    List.mem_map_of_mem (f := Prod.snd) traced.hubCredentials
  cases field with
  | src =>
    exact origin_of_mem [.src] ["BLE", "DMWORKER"] (List.mem_cons_of_mem _ traced.src) holds
      (by decide) (by decide)
  | dest =>
    exact origin_of_mem [.dest, .src] ["IoTHub", "DMHUB", "BLE", "DMWORKER"] traced.dest holds
      (by decide) (by decide)
  | deviceId =>
    exact origin_of_mem [.deviceId, .dmId] ["name"] traced.deviceId holds (by decide) (by decide)
  | deviceKey =>
    exact origin_of_mem [.deviceKey] ["key"] traced.deviceKey holds (by decide) (by decide)
  | iotId => exact origin_of_mem [.iotId] ["IoTHub"] iotId holds (by decide) (by decide)
  | iotKey => exact origin_of_mem [.iotKey] ["IoTHub"] iotKey holds (by decide) (by decide)
  | macAddress =>
    exact origin_of_mem [.macAddress] ["01:01"] traced.macAddress holds (by decide) (by decide)
  | uuid => exact origin_of_mem [.uuid] ["UUID"] traced.uuid holds (by decide) (by decide)
  | dmId => exact origin_of_mem [.dmId] [] traced.dmId holds (by decide) (by decide)
  | request => exact origin_of_mem [.request] [] traced.request holds (by decide) (by decide)

end Gateway

namespace Bus

open Gateway

variable {modules : List GatewayModule} {limit : UInt32} {sender : ModuleId} {seed : Message}

/-- What the seed has and no rule loses, every message of the cascade has. -/
theorem forall_message_of_rewrites (keeps : Message → Prop) (start : keeps seed)
    (step : ∀ module m derived, Rewrites module m derived → keeps m → keeps derived)
    {event : Event} (member : event ∈ ((ofGateway modules limit).publish sender seed).events) :
    keeps event.message := by
  refine forall_message_of_invariant start ?_ member
  intro parent m id derived kept child
  obtain ⟨_, module, _, rewrites⟩ := mem_children_ofGateway_iff.mp child
  exact step module m derived rewrites kept

theorem tracedTo_of_mem_events {event : Event}
    (member : event ∈ ((ofGateway modules limit).publish sender seed).events) :
    event.message.TracedTo seed :=
  forall_message_of_rewrites (fun m => m.TracedTo seed) (tracedTo_self seed)
    (fun _ _ _ rewrites traced => rewrites.tracedTo traced) member

/-- On a bus of gateway modules, every message of a cascade holds in each field what the seed or the
rules allow it to. Hence a text of the seed turns up in no other field, except that the device of a
request becomes a device id and the source a destination. -/
theorem message_provenance (modules : List GatewayModule) (limit : UInt32) (sender : ModuleId)
    (seed : Message) {event : Event}
    (member : event ∈ ((ofGateway modules limit).publish sender seed).events) :
    event.message.TracedTo seed ∧
      ∀ field text, event.message.get field = some text →
        text ∈ writtenTexts ∨
          ∃ origin, seed.get origin = some text ∧ field ∈ movesTo origin := by
  have traced := tracedTo_of_mem_events member
  exact ⟨traced, fun _ _ holds => exists_origin traced holds⟩

/-- The device of a request on its way to the radio. -/
theorem message_provenance_request :
    let seed : Message := { src := "s", dest := "BLE", iotId := "i", dmId := "d", request := "r" }
    let request : Message :=
      { src := "DMWORKER", dest := "BLE", deviceId := "d", iotId := "i", uuid := "UUID" }
    let event : Event := .received ⟨1, 1, 2, "IDMAP", "device-id-to-mac", request⟩
    event ∈ ((ofGateway GatewayModule.all 1).publish 0 seed).events ∧ request.TracedTo seed := by
  intro seed request event
  have member : event ∈ ((ofGateway GatewayModule.all 1).publish 0 seed).events := by
    rw [publish_events]
    decide
  exact ⟨member, (message_provenance GatewayModule.all 1 0 seed member).1⟩

end Bus

end GatewaySim
