import GatewaySim.Proofs.Bus.Segments
import GatewaySim.Proofs.Gateway.Rewrites
import Mathlib.Data.List.NodupEquivFin

/-! # How far a gateway message can get

The rules hand each other what they ask for: the id map trades a device id for an address and back,
the radio turns the source into the destination, and the worker brings a characteristic back. What
keeps them from going round is that no module meets a message of its own. With one id map and one
radio on the bus, every seed is used up within seven derivations, and with a second one of either
some seed never is (`hop_bound_iff`).
-/

namespace GatewaySim

namespace Gateway

/-! ## Rewriting steps -/

/-- A rewriting on a bus with at most one id map and one radio, where `previous` is the module that
sent the message, if it is registered: neither of the two meets a message of its own. -/
def Step (previous : Option GatewayModule) (m : Message) (module : GatewayModule)
    (derived : Message) : Prop :=
  Rewrites module m derived ∧
    (module = .idMap ∨ module = .simBle → previous ≠ some module)

/-- Every chain of steps that starts at the message has fewer than the given number of steps. -/
def EndsBy : Nat → Option GatewayModule → Message → Prop
  | 0, _, _ => False
  | bound + 1, previous, m =>
    ∀ module derived, Step previous m module derived → EndsBy bound (some module) derived

theorem EndsBy.succ {bound : Nat} {previous : Option GatewayModule} {m : Message}
    (ends : EndsBy bound previous m) : EndsBy (bound + 1) previous m := by
  induction bound generalizing previous m with
  | zero => exact ends.elim
  | succ bound ih => exact fun module derived step => ih (ends module derived step)

theorem EndsBy.mono {bound later : Nat} {previous : Option GatewayModule} {m : Message}
    (le : bound ≤ later) (ends : EndsBy bound previous m) : EndsBy later previous m := by
  induction le with
  | refl => exact ends
  | step _ ih => exact ih.succ

/-- Not a request that the worker would send out over the radio. -/
def Calm (m : Message) : Prop :=
  ¬ (m.dest = some "BLE" ∧ m.request.isSome ∧ m.dmId.isSome)

/-- No rule makes a request for the radio. -/
theorem Rewrites.calm_of_calm {module : GatewayModule} {m derived : Message}
    (rewrites : Rewrites module m derived) (calm : Calm m) : Calm derived := by
  cases rewrites with
  | located | named => exact calm
  | routed | answered | forwarded | requested => simp [Calm]

/-- Only the id map keeps a request for the radio. -/
theorem Rewrites.calm_of_ne_idMap {module : GatewayModule} {m derived : Message}
    (rewrites : Rewrites module m derived) (other : module ≠ .idMap) : Calm derived := by
  cases rewrites with
  | located | named => exact absurd rfl other
  | routed | answered | forwarded | requested => simp [Calm]

/-! ## Messages that are almost used up

Each lemma is about the messages of one kind, after those that their rewritings belong to. -/

variable {previous : Option GatewayModule} {m : Message}

theorem endsBy_of_spent (calm : Calm m) (noDeviceId : m.deviceId = none)
    (noAddress : m.macAddress = none) : EndsBy 1 previous m := by
  intro module derived step
  obtain ⟨rewrites, _⟩ := step
  cases rewrites with
  | routed _ deviceId | located deviceId | forwarded _ deviceId => simp [noDeviceId] at deviceId
  | named macAddress | answered _ macAddress => simp [noAddress] at macAddress
  | requested addressed request dmId => exact absurd ⟨addressed, request, dmId⟩ calm

theorem endsBy_of_delivered_idMap (delivered : m.dest = some "DMHUB") (noUuid : m.uuid = none) :
    EndsBy 1 (some .idMap) m := by
  intro module derived step
  obtain ⟨rewrites, apart⟩ := step
  cases rewrites with
  | routed addressed | forwarded addressed | requested addressed => simp [delivered] at addressed
  | located | named => exact absurd rfl (apart (.inl rfl))
  | answered uuid => simp [noUuid] at uuid

/-- What the worker has passed on to the management hub is at most mapped once more. -/
theorem endsBy_of_delivered (delivered : m.dest = some "DMHUB") (noUuid : m.uuid = none) :
    EndsBy 2 previous m := by
  intro module derived step
  obtain ⟨rewrites, _⟩ := step
  cases rewrites with
  | routed addressed | forwarded addressed | requested addressed => simp [delivered] at addressed
  | located | named => exact endsBy_of_delivered_idMap delivered noUuid
  | answered uuid => simp [noUuid] at uuid

/-! ## Messages that the id map has named -/

theorem endsBy_of_named (calm : Calm m) (noAddress : m.macAddress = none) :
    EndsBy 3 (some .idMap) m := by
  intro module derived step
  obtain ⟨rewrites, apart⟩ := step
  have still := rewrites.calm_of_calm calm
  cases rewrites with
  | routed => exact (endsBy_of_spent still rfl noAddress).succ
  | located | named => exact absurd rfl (apart (.inl rfl))
  | answered _ macAddress => simp [noAddress] at macAddress
  | forwarded => exact endsBy_of_delivered rfl rfl
  | requested addressed request dmId => exact absurd ⟨addressed, request, dmId⟩ calm

/-! ## Messages without a device id -/

/-- A fresh advertisement does not go back to the radio at once. -/
theorem endsBy_of_advertised (calm : Calm m) (noDeviceId : m.deviceId = none) :
    EndsBy 4 (some .simBle) m := by
  intro module derived step
  obtain ⟨rewrites, apart⟩ := step
  have still := rewrites.calm_of_calm calm
  cases rewrites with
  | routed _ deviceId | located deviceId | forwarded _ deviceId => simp [noDeviceId] at deviceId
  | named => exact endsBy_of_named still rfl
  | answered => exact absurd rfl (apart (.inr rfl))
  | requested addressed request dmId => exact absurd ⟨addressed, request, dmId⟩ calm

theorem endsBy_of_no_deviceId (calm : Calm m) (noDeviceId : m.deviceId = none) :
    EndsBy 5 previous m := by
  intro module derived step
  obtain ⟨rewrites, _⟩ := step
  have still := rewrites.calm_of_calm calm
  cases rewrites with
  | routed _ deviceId | located deviceId | forwarded _ deviceId => simp [noDeviceId] at deviceId
  | named => exact (endsBy_of_named still rfl).succ
  | answered => exact endsBy_of_advertised still rfl
  | requested addressed request dmId => exact absurd ⟨addressed, request, dmId⟩ calm

/-! ## All messages -/

theorem endsBy_of_calm (calm : Calm m) : EndsBy 6 previous m := by
  intro module derived step
  obtain ⟨rewrites, _⟩ := step
  have still := rewrites.calm_of_calm calm
  cases rewrites with
  | routed | located => exact endsBy_of_no_deviceId still rfl
  | named => exact (endsBy_of_named still rfl).mono (by decide)
  | answered => exact (endsBy_of_advertised still rfl).succ
  | forwarded => exact (endsBy_of_delivered rfl rfl).mono (by decide)
  | requested addressed request dmId => exact absurd ⟨addressed, request, dmId⟩ calm

theorem endsBy_of_idMap : EndsBy 7 (some .idMap) m := by
  intro module derived step
  obtain ⟨rewrites, apart⟩ := step
  have calm := rewrites.calm_of_ne_idMap fun same => absurd (same ▸ rfl) (apart (.inl same))
  exact endsBy_of_calm calm

/-- A chain of steps has at most seven of them. -/
theorem endsBy_eight (previous : Option GatewayModule) (m : Message) : EndsBy 8 previous m := by
  intro module derived step
  obtain ⟨rewrites, _⟩ := step
  by_cases same : module = .idMap
  · rw [same]
    exact endsBy_of_idMap
  · exact (endsBy_of_calm (rewrites.calm_of_ne_idMap same)).succ

end Gateway

namespace Bus

open Gateway

/-! ## At most one of a module -/

theorem two_le_count_iff {modules : List GatewayModule} {module : GatewayModule} :
    2 ≤ modules.count module ↔
      ∃ id other : Nat, id < other ∧ modules[id]? = some module ∧
        modules[other]? = some module := by
  rw [← List.duplicate_iff_two_le_count, List.duplicate_iff_exists_distinct_get]
  constructor
  · intro twice
    obtain ⟨id, other, before, found, again⟩ := twice
    exact ⟨id, other, before, by simp [found], by simp [again]⟩
  · intro twice
    obtain ⟨id, other, before, found, again⟩ := twice
    obtain ⟨inside, found⟩ := List.getElem?_eq_some_iff.mp found
    obtain ⟨insideToo, again⟩ := List.getElem?_eq_some_iff.mp again
    exact ⟨⟨id, inside⟩, ⟨other, insideToo⟩, before, found.symm, again.symm⟩

theorem eq_of_count_le_one {modules : List GatewayModule} {module : GatewayModule}
    (once : modules.count module ≤ 1) {id other : ModuleId}
    (found : modules[id]? = some module) (again : modules[other]? = some module) :
    id = other := by
  by_contra differ
  have twice : 2 ≤ modules.count module := by
    rw [two_le_count_iff]
    rcases Nat.lt_or_gt_of_ne differ with before | after
    · exact ⟨id, other, before, found, again⟩
    · exact ⟨other, id, after, again, found⟩
  omega

/-- Of a module that is registered twice, one is not the sender. -/
theorem exists_receiver {modules : List GatewayModule} {module : GatewayModule}
    (twice : ¬ modules.count module ≤ 1) (sender : ModuleId) :
    ∃ id : ModuleId, id ≠ sender ∧ modules[id]? = some module := by
  obtain ⟨id, other, before, found, again⟩ := two_le_count_iff.mp (Nat.not_le.mp twice)
  by_cases own : id = sender
  · exact ⟨other, own ▸ Nat.ne_of_gt before, again⟩
  · exact ⟨id, own, found⟩

/-! ## Cascades end -/

section Ends

variable {modules : List GatewayModule} {limit : UInt32}

theorem step_of_mem_children (idMap : modules.count .idMap ≤ 1)
    (simBle : modules.count .simBle ≤ 1) {sender id : ModuleId} {m derived : Message}
    (child : (id, derived) ∈ (ofGateway modules limit).children sender m) :
    ∃ module, modules[id]? = some module ∧
      Step modules[sender]? m module derived := by
  obtain ⟨other, module, found, rewrites⟩ := mem_children_ofGateway_iff.mp child
  refine ⟨module, found, rewrites, ?_⟩
  rintro (rfl | rfl) own
  · exact other (eq_of_count_le_one idMap found own)
  · exact other (eq_of_count_le_one simBle found own)

/-- Each level down, one step fewer is left. -/
theorem endsBy_of_mem_level (idMap : modules.count .idMap ≤ 1)
    (simBle : modules.count .simBle ≤ 1) {sender id : ModuleId} {seed message : Message}
    {depth bound : Nat} (ends : EndsBy (bound + depth) modules[sender]? seed)
    (member : (id, message) ∈ (ofGateway modules limit).level sender seed depth) :
    EndsBy bound modules[id]? message := by
  induction depth generalizing bound id message with
  | zero =>
    cases List.mem_singleton.mp member
    exact ends
  | succ depth ih =>
    obtain ⟨⟨parent, above⟩, found, child⟩ := List.mem_flatMap.mp member
    have left : EndsBy (bound + 1 + depth) modules[sender]? seed := by
      rw [Nat.add_right_comm]
      exact ends
    obtain ⟨module, place, step⟩ := step_of_mem_children idMap simBle child
    rw [place]
    exact ih left found module message step

theorem level_eight (idMap : modules.count .idMap ≤ 1) (simBle : modules.count .simBle ≤ 1)
    (sender : ModuleId) (seed : Message) :
    (ofGateway modules limit).level sender seed 8 = [] := by
  rw [List.eq_nil_iff_forall_not_mem]
  intro entry member
  have ends : EndsBy (0 + 8) modules[sender]? seed := endsBy_eight _ _
  exact endsBy_of_mem_level idMap simBle ends member

theorem maxHop_le_seven (idMap : modules.count .idMap ≤ 1) (simBle : modules.count .simBle ≤ 1)
    (sender : ModuleId) (seed : Message) :
    ((ofGateway modules limit).publish sender seed).maxHop ≤ 7 := by
  rw [UInt32.le_iff_toNat_le]
  exact publish_maxHop_le (level_eight idMap simBle sender seed)

theorem isComplete_of_seven_le (idMap : modules.count .idMap ≤ 1)
    (simBle : modules.count .simBle ≤ 1) (seven : 7 ≤ limit) (sender : ModuleId)
    (seed : Message) : ((ofGateway modules limit).publish sender seed).isComplete := by
  have below : 7 ≤ limit.toNat := UInt32.le_iff_toNat_le.mp seven
  rw [publish_isComplete_iff, hopLimit_ofGateway]
  exact level_eq_nil_of_le (Nat.succ_le_succ below) (level_eight idMap simBle sender seed)

end Ends

/-! ## Cascades that do not end -/

/-- Two id maps trade the device id for the address and back forever. -/
theorem level_ne_nil_of_two_idMap {modules : List GatewayModule}
    (twice : ¬ modules.count .idMap ≤ 1) (limit : UInt32) (depth : Nat) :
    (ofGateway modules limit).level 0 { deviceId := "" } depth ≠ [] := by
  have step : ∀ (sender : ModuleId) (m : Message), m.deviceId.isSome ∨ m.macAddress.isSome →
      ∃ id derived, (id, derived) ∈ (ofGateway modules limit).children sender m ∧
        (derived.deviceId.isSome ∨ derived.macAddress.isSome) := by
    intro sender m present
    obtain ⟨id, other, found⟩ := exists_receiver twice sender
    rcases present with deviceId | macAddress
    · exact ⟨id, _, mem_children_ofGateway_iff.mpr ⟨other, _, found, .located deviceId⟩, .inr rfl⟩
    · exact ⟨id, _, mem_children_ofGateway_iff.mpr ⟨other, _, found, .named macAddress⟩, .inl rfl⟩
  obtain ⟨id, message, member, _⟩ :=
    exists_mem_level_of_invariant step 0 { deviceId := "" } (.inl rfl) depth
  exact List.ne_nil_of_mem member

/-- Two radios answer each other forever. -/
theorem level_ne_nil_of_two_simBle {modules : List GatewayModule}
    (twice : ¬ modules.count .simBle ≤ 1) (limit : UInt32) (depth : Nat) :
    (ofGateway modules limit).level 0 { macAddress := "", uuid := "" } depth ≠ [] := by
  have step : ∀ (sender : ModuleId) (m : Message), m.uuid.isSome ∧ m.macAddress.isSome →
      ∃ id derived, (id, derived) ∈ (ofGateway modules limit).children sender m ∧
        (derived.uuid.isSome ∧ derived.macAddress.isSome) := by
    intro sender m present
    obtain ⟨uuid, macAddress⟩ := present
    obtain ⟨id, other, found⟩ := exists_receiver twice sender
    exact ⟨id, _, mem_children_ofGateway_iff.mpr ⟨other, _, found, .answered uuid macAddress⟩,
      rfl, macAddress⟩
  obtain ⟨id, message, member, _⟩ := exists_mem_level_of_invariant step 0
    { macAddress := "", uuid := "" } ⟨rfl, rfl⟩ depth
  exact List.ne_nil_of_mem member

/-! ## The hop bound -/

/-- A seed that all modules together keep up for seven derivations: its address gives it a device
id, so that the worker's request meets the id map with another one, and the radio's answer is
addressed to the worker. -/
def longest : Message :=
  { dest := "BLE", macAddress := "", dmId := "", request := "" }

theorem level_seven_longest (limit : UInt32) :
    (ofGateway GatewayModule.all limit).level 0 longest 7 ≠ [] := by
  have start : (0, longest) ∈ (ofGateway GatewayModule.all limit).level 0 longest 0 :=
    List.mem_singleton_self _
  have named := mem_level_succ_of_rewrites start (show 2 ≠ 0 by decide) rfl (.named rfl)
  have requested :=
    mem_level_succ_of_rewrites named (show 5 ≠ 2 by decide) rfl (.requested rfl rfl rfl)
  have located := mem_level_succ_of_rewrites requested (show 2 ≠ 5 by decide) rfl (.located rfl)
  have answered :=
    mem_level_succ_of_rewrites located (show 3 ≠ 2 by decide) rfl (.answered rfl rfl)
  -- The answer goes to whoever sent the request, so the worker meets it once it is named again.
  have again := mem_level_succ_of_rewrites answered (show 2 ≠ 3 by decide) rfl (.named rfl)
  have forwarded :=
    mem_level_succ_of_rewrites again (show 5 ≠ 2 by decide) rfl (.forwarded rfl rfl rfl)
  have last := mem_level_succ_of_rewrites forwarded (show 2 ≠ 5 by decide) rfl (.located rfl)
  exact List.ne_nil_of_mem last

theorem maxHop_longest {limit : UInt32} (seven : 7 ≤ limit) :
    ((ofGateway GatewayModule.all limit).publish 0 longest).maxHop = 7 := by
  have below : 7 ≤ (ofGateway GatewayModule.all limit).hopLimit.toNat := by
    rw [hopLimit_ofGateway]
    exact UInt32.le_iff_toNat_le.mp seven
  have attained := le_publish_maxHop below (level_seven_longest limit)
  apply UInt32.le_antisymm
  · exact maxHop_le_seven (by decide) (by decide) 0 longest
  · rw [UInt32.le_iff_toNat_le]
    exact attained

/-- On a bus of gateway modules, every seed is used up within seven hops exactly if there is at
most one id map and at most one radio among them. On the bus with each module once, seven hops
suffice whatever the limit, and some seed takes all of them. -/
theorem hop_bound_iff (modules : List GatewayModule) :
    ((modules.count .idMap ≤ 1 ∧ modules.count .simBle ≤ 1) ↔
      ∀ (seed : Message) (sender : ModuleId) (limit : UInt32), 7 ≤ limit →
        ((ofGateway modules limit).publish sender seed).isComplete ∧
          ((ofGateway modules limit).publish sender seed).maxHop ≤ 7) ∧
    (∀ (seed : Message) (sender : ModuleId) (limit : UInt32),
      ((ofGateway GatewayModule.all limit).publish sender seed).maxHop ≤ 7) ∧
    (∃ (seed : Message) (sender : ModuleId), ∀ limit : UInt32, 7 ≤ limit →
      ((ofGateway GatewayModule.all limit).publish sender seed).maxHop = 7) := by
  refine ⟨⟨?bounded, ?unbounded⟩, ?all, ?attained⟩
  case bounded =>
    intro once seed sender limit seven
    obtain ⟨idMap, simBle⟩ := once
    exact ⟨isComplete_of_seven_le idMap simBle seven sender seed,
      maxHop_le_seven idMap simBle sender seed⟩
  case unbounded =>
    intro within
    have ends (sender : ModuleId) (seed : Message) :
        (ofGateway modules 7).level sender seed 8 = [] := by
      have complete := publish_isComplete_iff.mp (within seed sender 7 (by decide)).1
      rw [hopLimit_ofGateway] at complete
      exact complete
    constructor
    · by_contra twice
      exact level_ne_nil_of_two_idMap twice 7 8 (ends _ _)
    · by_contra twice
      exact level_ne_nil_of_two_simBle twice 7 8 (ends _ _)
  case all =>
    exact fun seed sender limit => maxHop_le_seven (by decide) (by decide) sender seed
  case attained =>
    exact ⟨longest, 0, fun limit seven => maxHop_longest seven⟩

end Bus

end GatewaySim
