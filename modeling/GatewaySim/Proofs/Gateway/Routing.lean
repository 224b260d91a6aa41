import GatewaySim.Proofs.Bus.Lockstep
import GatewaySim.Proofs.Gateway.Rewrites

/-! # What routing depends on

The gateway's rules look at the destination, at the source, and otherwise only at which fields are
present. They neither test nor move any other text in a way that shows: seeds of the same route are
answered by the same rules, with derived messages of the same route, so their cascades run in
lockstep (`publish_sameRoute`).
-/

namespace GatewaySim

/-- Messages with the same fields present, the same destination and the same source. -/
structure Message.SameRoute (a b : Message) : Prop where
  present : ∀ field, a.has field = b.has field
  dest : a.dest = b.dest
  src : a.src = b.src

namespace Message

variable {a b : Message}

theorem has_put (m : Message) (field other : Field) (value : Option String) :
    (m.put field value).has other = if other = field then value.isSome else m.has other := by
  rw [has, get_put]
  split <;> rfl

namespace SameRoute

theorem isSome_iff (same : SameRoute a b) (field : Field) :
    (a.get field).isSome ↔ (b.get field).isSome := by
  have present := same.present field
  rw [has, has] at present
  rw [present]

/-- Only what is written into the destination or the source has to be the same text. -/
theorem put (same : SameRoute a b) (field : Field) {x y : Option String}
    (present : x.isSome = y.isSome) (visible : field = .dest ∨ field = .src → x = y) :
    SameRoute (a.put field x) (b.put field y) where
  present other := by rw [has_put, has_put, present, same.present]
  dest := by
    have written : (a.put field x).get .dest = (b.put field y).get .dest := by
      rw [get_put, get_put]
      split
      next here => exact visible (.inl here.symm)
      next => exact same.dest
    exact written
  src := by
    have written : (a.put field x).get .src = (b.put field y).get .src := by
      rw [get_put, get_put]
      split
      next here => exact visible (.inr here.symm)
      next => exact same.src
    exact written

theorem write (same : SameRoute a b) (field : Field) (value : Option String) :
    SameRoute (a.put field value) (b.put field value) :=
  same.put field rfl fun _ => rfl

end SameRoute

end Message

namespace Gateway

open Message (SameRoute)

/-- A rule that answers messages of the same route alike. -/
def RouteBlind (rule : Message → Option Reaction) : Prop :=
  ∀ a b, SameRoute a b → Option.Rel (Reaction.Related SameRoute) (rule a) (rule b)

/-- Two rules that match together and whose reactions are related. -/
theorem rel_ite {P Q : Prop} [Decidable P] [Decidable Q] {x y : Reaction} (same : P ↔ Q)
    (related : x.Related SameRoute y) :
    Option.Rel (Reaction.Related SameRoute) (if P then some x else none)
      (if Q then some y else none) := by
  by_cases holds : P
  · rw [if_pos holds, if_pos (same.mp holds)]
    exact .some related
  · rw [if_neg holds, if_neg (mt same.mpr holds)]
    exact .none

theorem credentials_iff {a b : Message} (same : SameRoute a b) :
    a.deviceId.isSome ∧ a.deviceKey.isSome ↔ b.deviceId.isSome ∧ b.deviceKey.isSome :=
  and_congr (same.isSome_iff .deviceId) (same.isSome_iff .deviceKey)

/-! ## The rules, one by one

For each rule: both messages meet its conditions or neither does, and what it writes into the
derived message is either the same text or present in both. -/

theorem iotHubArrival_routeBlind : RouteBlind iotHubArrival := by
  intro a b same
  refine rel_ite ?_ ⟨rfl, .none⟩
  rw [same.dest]
  exact and_congr_right fun _ => and_congr (same.isSome_iff .iotId) (same.isSome_iff .iotKey)

theorem dmHubArrival_routeBlind : RouteBlind dmHubArrival := by
  intro a b same
  refine rel_ite ?_ ⟨rfl, .none⟩
  rw [same.dest]
  exact and_congr_right fun _ => credentials_iff same

theorem routing_routeBlind : RouteBlind routing := by
  intro a b same
  have derived := ((((same.write .dest "IoTHub").write .iotId "IoTHub").write .iotKey
    "IoTHub").write .deviceId none).write .deviceKey none
  refine rel_ite ?_ ⟨rfl, .some derived⟩
  rw [same.dest]
  exact and_congr_right fun _ => credentials_iff same

theorem deviceIdToMac_routeBlind : RouteBlind deviceIdToMac := by
  intro a b same
  have derived := (same.write .deviceId none).write .macAddress "01:01"
  exact rel_ite (same.isSome_iff .deviceId) ⟨rfl, .some derived⟩

theorem macToDeviceId_routeBlind : RouteBlind macToDeviceId := by
  intro a b same
  have derived := ((same.write .macAddress none).write .deviceId "name").write .deviceKey "key"
  exact rel_ite (same.isSome_iff .macAddress) ⟨rfl, .some derived⟩

/-- The radio makes the source the destination, so it is the same; the address is only moved. -/
theorem advertising_routeBlind : RouteBlind advertising := by
  intro a b same
  have fresh : SameRoute .empty .empty := ⟨fun _ => rfl, rfl, rfl⟩
  have address : a.macAddress.isSome = b.macAddress.isSome := same.present .macAddress
  have answer : answerTo a.src = answerTo b.src := congrArg answerTo same.src
  have derived := (((fresh.write .src "BLE").put .dest (congrArg Option.isSome answer)
    fun _ => answer).put .macAddress address (by simp)).write .uuid "UUID"
  refine rel_ite ?_ ⟨rfl, .some derived⟩
  exact and_congr (same.isSome_iff .uuid) (same.isSome_iff .macAddress)

theorem forwarding_routeBlind : RouteBlind forwarding := by
  intro a b same
  have derived := ((same.write .dest "DMHUB").write .src "DMWORKER").write .uuid none
  refine rel_ite ?_ ⟨rfl, .some derived⟩
  rw [same.dest]
  exact and_congr_right fun _ => credentials_iff same

/-- The worker moves the request's device to the device of the message. -/
theorem requesting_routeBlind : RouteBlind requesting := by
  intro a b same
  have device : a.dmId.isSome = b.dmId.isSome := same.present .dmId
  have derived := ((((same.write .src "DMWORKER").put .deviceId device (by simp)).write .uuid
    "UUID").write .request none).write .dmId none
  refine rel_ite ?_ ⟨rfl, .some derived⟩
  rw [same.dest]
  exact and_congr_right fun _ => and_congr (same.isSome_iff .request) (same.isSome_iff .dmId)

theorem routeBlind_of_mem_rules {module : GatewayModule} {rule : Message → Option Reaction}
    (member : rule ∈ module.rules) : RouteBlind rule := by
  cases module <;> simp only [GatewayModule.rules, List.mem_cons, List.not_mem_nil,
    or_false] at member
  case iotHub => exact member ▸ iotHubArrival_routeBlind
  case router => exact member ▸ routing_routeBlind
  case simBle => exact member ▸ advertising_routeBlind
  case dmHub => exact member ▸ dmHubArrival_routeBlind
  case idMap =>
    rcases member with rfl | rfl
    · exact deviceIdToMac_routeBlind
    · exact macToDeviceId_routeBlind
  case dmWorker =>
    rcases member with rfl | rfl
    · exact forwarding_routeBlind
    · exact requesting_routeBlind

theorem respects_toModule (module : GatewayModule) : module.toModule.Respects SameRoute := by
  intro a b same
  have rules : List.Forall₂ (fun x y => x = y ∧ x ∈ module.rules) module.rules module.rules :=
    List.forall₂_same.mpr fun _ member => ⟨rfl, member⟩
  refine List.rel_filterMap ?_ rules
  rintro rule _ ⟨rfl, member⟩
  exact routeBlind_of_mem_rules member a b same

end Gateway

namespace Bus

open Message (SameRoute)

theorem respects_ofGateway (modules : List GatewayModule) (limit : UInt32) :
    (ofGateway modules limit).Respects SameRoute := by
  intro module member
  rw [modules_ofGateway, List.mem_map] at member
  obtain ⟨found, _, rfl⟩ := member
  exact Gateway.respects_toModule found

/-- On a bus of gateway modules, seeds of the same route lead to cascades that agree event by event,
their messages being of the same route again. -/
theorem publish_sameRoute (modules : List GatewayModule) (limit : UInt32) (sender : ModuleId)
    {a b : Message} (same : SameRoute a b) :
    let left := ((ofGateway modules limit).publish sender a).events
    let right := ((ofGateway modules limit).publish sender b).events
    left.length = right.length ∧ List.Forall₂ (Event.Related SameRoute) left right := by
  have related := publish_related (respects_ofGateway modules limit) sender same
  exact ⟨related.length_eq, related⟩

/-- The seed that is kept up longest, with its texts and with others. -/
theorem publish_sameRoute_longest :
    let seed : Message := { dest := "BLE", macAddress := "", dmId := "", request := "" }
    let other : Message := { dest := "BLE", macAddress := "02:02", dmId := "id", request := "r" }
    SameRoute seed other ∧ seed ≠ other ∧
      List.Forall₂ (Event.Related SameRoute)
        ((ofGateway GatewayModule.all 7).publish 0 seed).events
        ((ofGateway GatewayModule.all 7).publish 0 other).events := by
  intro seed other
  have same : SameRoute seed other :=
    ⟨fun field => by cases field <;> rfl, rfl, rfl⟩
  exact ⟨same, by decide, (publish_sameRoute GatewayModule.all 7 0 same).2⟩

end Bus

end GatewaySim
