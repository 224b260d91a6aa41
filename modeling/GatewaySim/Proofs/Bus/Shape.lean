import GatewaySim.Proofs.Bus.HopLimit

/-! # The shape of a cascade

A cascade consists of one block of events for each publication, in the order of their numbers. A
block is read off its publication alone: it asks every module but the sender, told apart by their
identities, and shows all their reactions to the message as it was published
(`publish_events_blocks`).
-/

namespace GatewaySim

def Publication.receiptAt (p : Publication) (id : ModuleId) (module : Module)
    (reaction : Reaction) : Receipt :=
  { publication := p.index
    hop := p.hop
    receiver := id
    receiverName := module.name
    rule := reaction.rule
    message := p.message }

theorem Cascade.mem_receipts {cascade : Cascade} {receipt : Receipt} :
    receipt ∈ cascade.receipts ↔ .received receipt ∈ cascade.events := by
  rw [receipts, List.mem_filterMap]
  constructor
  · intro found
    obtain ⟨event, member, shows⟩ := found
    cases event with
    | received other =>
      cases shows
      exact member
    | published | rejected => cases shows
  · exact fun member => ⟨_, member, rfl⟩

namespace Bus

/-- What one reaction to a publication shows: a receipt and, if the publication lies at the hop
limit and a message is derived from it, the rejection of that message. -/
def shown (bus : Bus) (p : Publication) (id : ModuleId) (module : Module) (reaction : Reaction) :
    List Event :=
  .received (p.receiptAt id module reaction) ::
    match reaction.republish with
    | none => []
    | some derived =>
      if p.hop = bus.hopLimit then
        [.rejected
          { hop := bus.hopLimit + 1
            limit := bus.hopLimit
            sender := id
            senderName := module.name
            message := derived }]
      else []

/-- A publication with what all modules but its sender show of it. -/
def block (bus : Bus) (p : Publication) : List Event :=
  .published p :: bus.modules.zipIdx.flatMap fun (module, id) =>
    if id = p.sender then [] else (module.receive p.message).flatMap (bus.shown p id module)

/-! ## Segments are blocks -/

theorem responseEvents_eq_shown {bus : Bus} {pending : Pending}
    (within : pending.hop ≤ bus.hopLimit) (index : Nat) (id : ModuleId) (module : Module)
    (reaction : Reaction) :
    bus.responseEvents index pending ⟨id, module.name, reaction⟩ =
      bus.shown (bus.publication index pending) id module reaction := by
  unfold responseEvents shown
  cases reaction.republish with
  | none => rfl
  | some derived =>
    have le := UInt32.le_iff_toNat_le.mp within
    by_cases below : pending.hop < bus.hopLimit
    · have ne : pending.hop ≠ bus.hopLimit := UInt32.ne_of_lt below
      simp [below, ne, publication, Publication.receiptAt]
    · have same : pending.hop = bus.hopLimit := by
        have lt := mt UInt32.lt_iff_toNat_lt.mpr below
        exact UInt32.toNat_inj.mp (by omega)
      simp [same, publication, Publication.receiptAt]

theorem segment_eq_block {bus : Bus} {pending : Pending} (within : pending.hop ≤ bus.hopLimit)
    (index : Nat) : bus.segment index pending = bus.block (bus.publication index pending) := by
  have asked : (bus.responses pending.sender pending.message).flatMap
        (bus.responseEvents index pending) =
      bus.modules.zipIdx.flatMap fun (module, id) =>
        if id = pending.sender then []
        else (module.receive pending.message).flatMap
          (bus.shown (bus.publication index pending) id module) := by
    rw [responses, List.flatMap_assoc]
    apply List.flatMap_congr
    intro entry _
    by_cases own : entry.2 = pending.sender
    · simp [own]
    · simp only [own, if_false, List.flatMap_map, responseEvents_eq_shown within]
  rw [segment, asked]
  rfl

theorem publish_events_flatMap_block (bus : Bus) (sender : ModuleId) (seed : Message) :
    (bus.publish sender seed).events =
      (bus.publish sender seed).publications.flatMap bus.block := by
  rw [publish_events, publish_publications, segments, List.flatMap_map]
  apply List.flatMap_congr
  intro entry member
  have bound := toNat_hop_of_mem_served (List.fst_mem_of_mem_zipIdx member)
  exact segment_eq_block (UInt32.le_iff_toNat_le.mpr bound) entry.2

theorem publish_publications_index (bus : Bus) (sender : ModuleId) (seed : Message) :
    (bus.publish sender seed).publications.map Publication.index =
      List.range (bus.publish sender seed).publications.length := by
  have numbers : (bus.publish sender seed).publications.map Publication.index =
      (bus.served sender seed).zipIdx.map Prod.snd := by
    rw [publish_publications, List.map_map]
    rfl
  have length : (bus.publish sender seed).publications.length =
      (bus.served sender seed).length := by
    rw [publish_publications, List.length_map, List.length_zipIdx]
  rw [numbers, length, List.zipIdx_map_snd, List.range_eq_range']

/-! ## Receipts -/

theorem received_mem_shown_iff {bus : Bus} {p : Publication} {id : ModuleId} {module : Module}
    {reaction : Reaction} {receipt : Receipt} :
    .received receipt ∈ bus.shown p id module reaction ↔
      receipt = p.receiptAt id module reaction := by
  unfold shown
  cases reaction.republish with
  | none => simp
  | some derived => by_cases limit : p.hop = bus.hopLimit <;> simp [limit]

theorem received_mem_block_iff {bus : Bus} {p : Publication} {receipt : Receipt} :
    .received receipt ∈ bus.block p ↔
      ∃ id module, bus.modules[id]? = some module ∧ id ≠ p.sender ∧
        ∃ reaction, reaction ∈ module.receive p.message ∧
          receipt = p.receiptAt id module reaction := by
  simp only [block, List.mem_cons, reduceCtorEq, false_or, List.mem_flatMap, Prod.exists,
    List.mem_zipIdx_iff_getElem?]
  constructor
  · intro member
    obtain ⟨module, id, found, member⟩ := member
    by_cases own : id = p.sender
    · simp [own] at member
    · simp only [own, if_false, List.mem_flatMap, received_mem_shown_iff] at member
      exact ⟨id, module, found, own, member⟩
  · intro reacted
    obtain ⟨id, module, found, other, reacted⟩ := reacted
    refine ⟨module, id, found, ?_⟩
    simpa only [other, if_false, List.mem_flatMap, received_mem_shown_iff] using reacted

theorem mem_receipts_iff {bus : Bus} {sender : ModuleId} {seed : Message} {receipt : Receipt} :
    receipt ∈ (bus.publish sender seed).receipts ↔
      ∃ p, p ∈ (bus.publish sender seed).publications ∧
        ∃ id module, bus.modules[id]? = some module ∧ id ≠ p.sender ∧
          ∃ reaction, reaction ∈ module.receive p.message ∧
            receipt = p.receiptAt id module reaction := by
  rw [Cascade.mem_receipts, publish_events_flatMap_block, List.mem_flatMap]
  simp only [received_mem_block_iff]

/-! ## The whole cascade -/

theorem toNat_hop_of_mem_rejections {bus : Bus} (below : bus.hopLimit.toNat < UInt32.size - 1)
    {sender : ModuleId} {seed : Message} {rejection : Rejection}
    (member : rejection ∈ (bus.publish sender seed).rejections) :
    rejection.hop.toNat = bus.hopLimit.toNat + 1 := by
  rw [publish_rejections] at member
  obtain ⟨entry, _, rfl⟩ := List.mem_map.mp member
  exact toNat_hop_add_one below

/-- A cascade is the blocks of its publications, in the order of their numbers; what is rejected
would have been one hop beyond the limit. The receipts are exactly the reactions of the modules
other than the sender to what was published. -/
theorem publish_events_blocks (bus : Bus) (below : bus.hopLimit.toNat < UInt32.size - 1)
    (sender : ModuleId) (seed : Message) :
    let cascade := bus.publish sender seed
    cascade.events = cascade.publications.flatMap bus.block ∧
      cascade.publications.map Publication.index = List.range cascade.publications.length ∧
      (∀ rejection, rejection ∈ cascade.rejections →
        rejection.hop.toNat = bus.hopLimit.toNat + 1) ∧
      (∀ receipt, receipt ∈ cascade.receipts ↔
        ∃ p, p ∈ cascade.publications ∧
          ∃ id module, bus.modules[id]? = some module ∧ id ≠ p.sender ∧
            ∃ reaction, reaction ∈ module.receive p.message ∧
              receipt = p.receiptAt id module reaction) :=
  ⟨publish_events_flatMap_block bus sender seed, publish_publications_index bus sender seed,
    fun _ member => toNat_hop_of_mem_rejections below member, fun _ => mem_receipts_iff⟩

/-- Of two modules of one name, the one that did not send the message receives it. -/
theorem publish_events_blocks_twins :
    let twin : Module := { name := "a", receive := fun m => [.derive "echo" m] }
    let bus : Bus := { modules := [twin, twin], hopLimit := 1 }
    let cascade := bus.publish 0 .empty
    bus.hopLimit.toNat < UInt32.size - 1 ∧
      cascade.events = cascade.publications.flatMap bus.block ∧
      cascade.publications.flatMap bus.block =
        [.published ⟨0, 0, 0, "a", .empty⟩, .received ⟨0, 0, 1, "a", "echo", .empty⟩,
          .published ⟨1, 1, 1, "a", .empty⟩, .received ⟨1, 1, 0, "a", "echo", .empty⟩,
          .rejected ⟨2, 1, 0, "a", .empty⟩] := by
  intro twin bus cascade
  have below : bus.hopLimit.toNat < UInt32.size - 1 := by decide
  have shape := publish_events_blocks bus below 0 .empty
  refine ⟨below, shape.1, ?_⟩
  rw [publish_publications]
  rfl

end Bus

end GatewaySim
