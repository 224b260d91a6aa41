import GatewaySim.Proofs.Gateway.Provenance

/-! # What gets into a hub

A hub reads only the message, and still it keeps nothing that has not come through its gatekeeper.
Hub credentials are written by the router alone, so the cloud hub keeps what the router has
addressed to it. The management hub becomes a destination by the worker alone, as no message has
that hub as its source for a radio to answer to (`hub_admission`).
-/

namespace GatewaySim

namespace Gateway

variable {module : GatewayModule} {m derived : Message}

/-! ## The cloud hub -/

/-- Without a complete pair of hub credentials, the cloud hub refuses a message. -/
def LacksCredentials (m : Message) : Prop := m.iotId = none ∨ m.iotKey = none

theorem not_mem_receive_iotHub (lacks : LacksCredentials m) (reaction : Reaction) :
    reaction ∉ GatewayModule.iotHub.receive m := by
  intro kept
  obtain ⟨⟨_, iotId, iotKey⟩, _⟩ := mem_receive_iotHub_iff.mp kept
  rcases lacks with noId | noKey
  · simp [noId] at iotId
  · simp [noKey] at iotKey

theorem Rewrites.lacksCredentials (rewrites : Rewrites module m derived)
    (lacks : LacksCredentials m) : LacksCredentials derived ∨ module = .router := by
  cases rewrites with
  | routed => exact .inr rfl
  | located | named | forwarded | requested => exact .inl lacks
  | answered => exact .inl (.inl rfl)

/-- A complete pair that the seed did not have is the router's. -/
theorem credentials_of_tracedTo {seed : Message} (traced : m.TracedTo seed)
    (lacks : LacksCredentials seed) (iotId : m.iotId.isSome) (iotKey : m.iotKey.isSome) :
    m.iotId = some "IoTHub" ∧ m.iotKey = some "IoTHub" := by
  have together := traced.hubCredentials
  simp only [List.mem_cons, List.not_mem_nil, or_false, Prod.mk.injEq] at together
  rcases together with ⟨none, _⟩ | ⟨sameId, sameKey⟩ | both
  · simp [none] at iotId
  · rw [sameId] at iotId
    rw [sameKey] at iotKey
    rcases lacks with noId | noKey
    · simp [noId] at iotId
    · simp [noKey] at iotKey
  · exact both

/-! ## The management hub -/

/-- A message that neither is addressed to the management hub nor comes from it. -/
def Elsewhere (m : Message) : Prop := m.dest ≠ some "DMHUB" ∧ m.src ≠ some "DMHUB"

theorem not_mem_receive_dmHub (elsewhere : Elsewhere m) (reaction : Reaction) :
    reaction ∉ GatewayModule.dmHub.receive m := by
  intro kept
  obtain ⟨⟨addressed, _⟩, _⟩ := mem_receive_dmHub_iff.mp kept
  exact elsewhere.1 addressed

/-- The radio answers to the management hub only if it is asked from there. -/
theorem answerTo_ne (source : m.src ≠ some "DMHUB") : answerTo m.src ≠ some "DMHUB" := by
  rcases answerTo_eq m.src with nobody | same
  · simp [nobody]
  · rw [same]
    exact source

theorem Rewrites.elsewhere (rewrites : Rewrites module m derived) (elsewhere : Elsewhere m) :
    Elsewhere derived ∨ module = .dmWorker := by
  obtain ⟨dest, src⟩ := elsewhere
  cases rewrites with
  | routed => exact .inl ⟨by simp, src⟩
  | located | named => exact .inl ⟨dest, src⟩
  | answered => exact .inl ⟨answerTo_ne src, by simp⟩
  | forwarded | requested => exact .inr rfl

/-- Not from the management hub, and for it only as the worker forwards messages. -/
structure Guarded (m : Message) : Prop where
  src : m.src ≠ some "DMHUB"
  forwarded : m.dest = some "DMHUB" → m.src = some "DMWORKER" ∧ m.uuid = none

/-- What is for the management hub has no characteristic, so the radio never answers it. -/
theorem Rewrites.guarded (rewrites : Rewrites module m derived) (guarded : Guarded m) :
    Guarded derived := by
  obtain ⟨src, forwarded⟩ := guarded
  cases rewrites with
  | routed => exact ⟨src, by simp⟩
  | located | named => exact ⟨src, forwarded⟩
  | answered => exact ⟨by simp, fun addressed => absurd addressed (answerTo_ne src)⟩
  | forwarded => exact ⟨by simp, fun _ => ⟨rfl, rfl⟩⟩
  | requested addressed => exact ⟨by simp, fun other => by simp [addressed] at other⟩

end Gateway

namespace Bus

open Gateway

variable {modules : List GatewayModule} {limit : UInt32} {sender : ModuleId} {seed : Message}

/-! ## Receipts at a hub -/

/-- What a module of one kind receives has the property, and a module of the other kind has
published before. -/
def AdmitsVia (modules : List GatewayModule) (cascade : Cascade) (hub via : GatewayModule)
    (allowed : Message → Prop) : Prop :=
  ∀ before receipt after, cascade.events = before ++ .received receipt :: after →
    modules[receipt.receiver]? = some hub →
      allowed receipt.message ∧ ∃ p, .published p ∈ before ∧ modules[p.sender]? = some via

theorem received_mem_of_split {cascade : Cascade} {before after : List Event} {receipt : Receipt}
    (split : cascade.events = before ++ .received receipt :: after) :
    .received receipt ∈ cascade.events := by
  rw [split]
  exact List.mem_append_right before (List.mem_cons_self ..)

theorem exists_cause_of_received {before after : List Event} {receipt : Receipt}
    {hub : GatewayModule}
    (split : ((ofGateway modules limit).publish sender seed).events =
      before ++ .received receipt :: after)
    (found : modules[receipt.receiver]? = some hub) :
    ∃ q reaction, .published q ∈ before ∧ q.message = receipt.message ∧
      reaction ∈ hub.receive receipt.message := by
  rcases publish_follows split with ⟨_, opening⟩ | follows
  · cases opening
  · cases follows with
    | @received q id module reaction earlier registered other reacts =>
      have same : modules[id]? = some hub := found
      rw [modules_ofGateway, List.getElem?_map, same] at registered
      cases registered
      exact ⟨q, reaction, earlier, rfl, reacts⟩

/-- If only one kind of module makes messages that a hub accepts, then one of these has published
before the hub receives anything. -/
theorem exists_published_of_received {keeps : Message → Prop} {hub via : GatewayModule}
    (start : keeps seed)
    (step : ∀ module m derived, Rewrites module m derived → keeps m →
      keeps derived ∨ module = via)
    (refuses : ∀ m, keeps m → ∀ reaction, reaction ∉ hub.receive m)
    {before after : List Event} {receipt : Receipt}
    (split : ((ofGateway modules limit).publish sender seed).events =
      before ++ .received receipt :: after)
    (found : modules[receipt.receiver]? = some hub) :
    ∃ p, .published p ∈ before ∧ modules[p.sender]? = some via := by
  -- Going back from the receipt starts at the publication that the hub has reacted to.
  obtain ⟨q, reaction, earlier, same, reacts⟩ := exists_cause_of_received split found
  obtain ⟨front, back, rfl⟩ := List.append_of_mem earlier
  rw [List.append_assoc, List.cons_append] at split
  have marks : ∀ parent m id derived, keeps m →
      (id, derived) ∈ (ofGateway modules limit).children parent m →
        keeps derived ∨ modules[id]? = some via := by
    intro parent m id derived kept child
    obtain ⟨_, module, place, rewrites⟩ := mem_children_ofGateway_iff.mp child
    rcases step module m derived rewrites kept with still | rfl
    · exact .inl still
    · exact .inr place
  rcases kept_or_marked (fun id => modules[id]? = some via) start marks split with
    kept | ⟨p, shown, mark⟩
  · exact absurd reacts (same ▸ refuses q.message kept reaction)
  · refine ⟨p, ?_, mark⟩
    rw [List.append_cons]
    exact List.mem_append_left _ shown

/-- Without the other kind of module the hub receives nothing. -/
theorem AdmitsVia.not_received {cascade : Cascade} {hub via : GatewayModule}
    {allowed : Message → Prop} (admits : AdmitsVia modules cascade hub via allowed)
    (absent : via ∉ modules) {receipt : Receipt} (member : receipt ∈ cascade.receipts) :
    modules[receipt.receiver]? ≠ some hub := by
  intro found
  obtain ⟨before, after, split⟩ := List.append_of_mem (Cascade.mem_receipts.mp member)
  obtain ⟨_, p, _, place⟩ := admits before receipt after split found
  exact absent (List.mem_of_getElem? place)

theorem iotHub_admitsVia (modules : List GatewayModule) (limit : UInt32) (sender : ModuleId)
    (lacks : LacksCredentials seed) :
    AdmitsVia modules ((ofGateway modules limit).publish sender seed) .iotHub .router fun m =>
      m.dest = some "IoTHub" ∧ m.iotId = some "IoTHub" ∧ m.iotKey = some "IoTHub" := by
  intro before receipt after split found
  have traced : receipt.message.TracedTo seed :=
    tracedTo_of_mem_events (received_mem_of_split split)
  obtain ⟨_, _, _, _, kept⟩ := exists_cause_of_received split found
  obtain ⟨⟨addressed, iotId, iotKey⟩, _⟩ := mem_receive_iotHub_iff.mp kept
  have routed := exists_published_of_received lacks (fun _ _ _ => Rewrites.lacksCredentials)
    (fun _ => not_mem_receive_iotHub) split found
  exact ⟨⟨addressed, credentials_of_tracedTo traced lacks iotId iotKey⟩, routed⟩

theorem dmHub_admitsVia (elsewhere : Elsewhere seed) :
    AdmitsVia modules ((ofGateway modules limit).publish sender seed) .dmHub .dmWorker fun m =>
      m.src = some "DMWORKER" ∧ m.uuid = none := by
  intro before receipt after split found
  have start : Guarded seed := ⟨elsewhere.2, fun addressed => absurd addressed elsewhere.1⟩
  have guarded : Guarded receipt.message :=
    forall_message_of_rewrites Guarded start (fun _ _ _ => Rewrites.guarded)
      (received_mem_of_split split)
  obtain ⟨_, _, _, _, kept⟩ := exists_cause_of_received split found
  obtain ⟨⟨addressed, _⟩, _⟩ := mem_receive_dmHub_iff.mp kept
  have worked := exists_published_of_received elsewhere (fun _ _ _ => Rewrites.elsewhere)
    (fun _ => not_mem_receive_dmHub) split found
  exact ⟨guarded.forwarded addressed, worked⟩

/-- Hubs on a bus of gateway modules keep only what came through their gatekeepers. If the seed
lacks an id or a key of the hub, every receipt at a cloud hub has both and comes after a router's
publication, so that without a router there is none. If the seed is neither for the management hub
nor from it, every receipt at such a hub is of what a worker forwards, after it has published. -/
theorem hub_admission (modules : List GatewayModule) (limit : UInt32) (sender : ModuleId)
    (seed : Message) :
    let cascade := (ofGateway modules limit).publish sender seed
    (seed.iotId = none ∨ seed.iotKey = none →
      (AdmitsVia modules cascade .iotHub .router fun m =>
        m.dest = some "IoTHub" ∧ m.iotId = some "IoTHub" ∧ m.iotKey = some "IoTHub") ∧
      (.router ∉ modules → ∀ receipt, receipt ∈ cascade.receipts →
        modules[receipt.receiver]? ≠ some .iotHub)) ∧
    (seed.dest ≠ some "DMHUB" ∧ seed.src ≠ some "DMHUB" →
      AdmitsVia modules cascade .dmHub .dmWorker fun m =>
        m.src = some "DMWORKER" ∧ m.uuid = none) := by
  intro cascade
  constructor
  · intro lacks
    have admits := iotHub_admitsVia modules limit sender lacks
    exact ⟨admits, fun absent _ member => admits.not_received absent member⟩
  · exact fun elsewhere => dmHub_admitsVia elsewhere

/-- An address on its way up, with half of a pair of credentials, and a device's answer to the
worker. -/
theorem hub_admission_arrivals :
    let above : List GatewayModule := [.iotHub, .idMap, .router]
    let sensed : Message := { iotKey := "k", macAddress := "02:02" }
    let upward := ((ofGateway above 2).publish 0 sensed).events
    let below : List GatewayModule := [.dmHub, .dmWorker, .idMap]
    let answer : Message :=
      { dest := "DMWORKER", deviceId := "name", deviceKey := "key", uuid := "UUID" }
    let onward := ((ofGateway below 1).publish 2 answer).events
    (sensed.iotId = none ∧
      upward = upward.take 5 ++ .received ⟨2, 2, 0, "IoTHub", "terminal",
        { dest := "IoTHub", iotId := "IoTHub", iotKey := "IoTHub" }⟩ :: upward.drop 6 ∧
      ∃ p, .published p ∈ upward.take 5 ∧ above[p.sender]? = some .router) ∧
    (answer.dest ≠ some "DMHUB" ∧ answer.src ≠ some "DMHUB" ∧
      onward = onward.take 3 ++ .received ⟨1, 1, 0, "DMHUB", "terminal",
        { src := "DMWORKER", dest := "DMHUB", deviceId := "name", deviceKey := "key" }⟩ ::
          onward.drop 4 ∧
      ∃ p, .published p ∈ onward.take 3 ∧ below[p.sender]? = some .dmWorker) := by
  intro above sensed upward below answer onward
  have arrives : upward = upward.take 5 ++ .received ⟨2, 2, 0, "IoTHub", "terminal",
      { dest := "IoTHub", iotId := "IoTHub", iotKey := "IoTHub" }⟩ :: upward.drop 6 := by
    simp only [upward, publish_events]
    decide
  have reaches : onward = onward.take 3 ++ .received ⟨1, 1, 0, "DMHUB", "terminal",
      { src := "DMWORKER", dest := "DMHUB", deviceId := "name", deviceKey := "key" }⟩ ::
        onward.drop 4 := by
    simp only [onward, publish_events]
    decide
  have elsewhere : answer.dest ≠ some "DMHUB" ∧ answer.src ≠ some "DMHUB" := by decide
  have routed := ((hub_admission above 2 0 sensed).1 (.inl rfl)).1 _ _ _ arrives rfl
  have worked := (hub_admission below 1 2 answer).2 elsewhere _ _ _ reaches rfl
  exact ⟨⟨rfl, arrives, routed.2⟩, elsewhere.1, elsewhere.2, reaches, worked.2⟩

end Bus

end GatewaySim
