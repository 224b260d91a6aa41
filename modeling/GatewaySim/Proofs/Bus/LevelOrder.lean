import GatewaySim.Proofs.Bus.Segments

/-! # Cascades in level order

The queue neither loses nor doubles nor reorders what is derived: the publications of a cascade are
the levels of its seed down to the hop limit, one after the other, and the rejections are the level
below (`publish_in_level_order`).
-/

namespace GatewaySim.Bus

def levels (bus : Bus) (sender : ModuleId) (seed : Message) (last : Nat) :
    List (Nat × ModuleId × Message) :=
  (List.range (last + 1)).flatMap fun depth =>
    (bus.level sender seed depth).map fun entry => (depth, entry)

theorem served_eq_levels (bus : Bus) (sender : ModuleId) (seed : Message) :
    bus.served sender seed =
      (bus.levels sender seed bus.hopLimit.toNat).map fun place =>
        ⟨place.2.1, place.2.2, UInt32.ofNat place.1⟩ := by
  rw [served, levels, List.map_flatMap]
  apply congrArg (List.flatMap · _)
  funext depth
  rw [List.map_map]
  rfl

theorem depth_le_of_mem_levels {bus : Bus} {sender : ModuleId} {seed : Message} {last : Nat}
    {place : Nat × ModuleId × Message} (member : place ∈ bus.levels sender seed last) :
    place.1 ≤ last := by
  obtain ⟨depth, bound, member⟩ := List.mem_flatMap.mp member
  obtain ⟨entry, _, rfl⟩ := List.mem_map.mp member
  exact Nat.le_of_lt_succ (List.mem_range.mp bound)

/-! ## Hops in order -/

theorem served_sorted (bus : Bus) (sender : ModuleId) (seed : Message) :
    (bus.served sender seed).Pairwise fun a b => a.hop ≤ b.hop := by
  rw [served, List.pairwise_flatMap]
  constructor
  · intro depth _
    refine List.pairwise_of_forall_mem_list ?_
    intro a left b right
    rw [(hop_of_mem_waiting left).1, (hop_of_mem_waiting right).1]
    exact UInt32.le_refl _
  · refine List.pairwise_lt_range.imp_of_mem ?_
    intro low high lowBound highBound lt a left b right
    have size := bus.hopLimit.toNat_lt_size
    rw [List.mem_range] at lowBound highBound
    rw [(hop_of_mem_waiting left).1, (hop_of_mem_waiting right).1, UInt32.le_iff_toNat_le,
      UInt32.toNat_ofNat_of_lt' (by omega), UInt32.toNat_ofNat_of_lt' (by omega)]
    omega

/-- Segments of entries in order of their hops show their hops in order. -/
theorem segments_sorted {bus : Bus} {queue : List Pending} (index : Nat)
    (sorted : queue.Pairwise fun a b => a.hop ≤ b.hop) :
    ((bus.segments index queue).filter fun event => !event.isRejection).Pairwise
      fun a b => a.hop ≤ b.hop := by
  have numbered : (queue.zipIdx index).Pairwise fun a b => a.1.hop ≤ b.1.hop := by
    rw [← List.zipIdx_map_fst index queue, List.pairwise_map] at sorted
    exact sorted
  rw [segments, List.filter_flatMap, List.pairwise_flatMap]
  constructor
  · intro entry _
    refine List.pairwise_of_forall_mem_list ?_
    intro a left b right
    rw [hop_of_mem_segment left, hop_of_mem_segment right]
    exact UInt32.le_refl _
  · refine numbered.imp ?_
    intro first second le a left b right
    rw [hop_of_mem_segment left, hop_of_mem_segment right]
    exact le

/-! ## The order of a cascade -/

theorem publish_publications_levels (bus : Bus) (sender : ModuleId) (seed : Message) :
    ((bus.publish sender seed).publications.map fun p =>
        (p.index, p.hop.toNat, p.sender, p.senderName, p.message)) =
      (bus.levels sender seed bus.hopLimit.toNat).zipIdx.map fun ((depth, id, message), index) =>
        (index, depth, id, bus.nameOf id, message) := by
  rw [publish_publications, served_eq_levels, List.zipIdx_map, List.map_map, List.map_map]
  apply List.map_congr_left
  rintro ⟨⟨depth, id, message⟩, index⟩ member
  have bound := depth_le_of_mem_levels (List.fst_mem_of_mem_zipIdx member)
  have size := Nat.lt_of_le_of_lt bound bus.hopLimit.toNat_lt_size
  simp [publication, UInt32.toNat_ofNat_of_lt' size]

theorem publish_rejections_level {bus : Bus} (below : bus.hopLimit.toNat < UInt32.size - 1)
    (sender : ModuleId) (seed : Message) :
    ((bus.publish sender seed).rejections.map fun r =>
        (r.hop.toNat, r.limit, r.sender, r.senderName, r.message)) =
      (bus.level sender seed (bus.hopLimit.toNat + 1)).map fun (id, message) =>
        (bus.hopLimit.toNat + 1, bus.hopLimit, id, bus.nameOf id, message) := by
  rw [publish_rejections, List.map_map]
  apply List.map_congr_left
  intro entry _
  simp [rejection, toNat_hop_add_one below]

/-- Nothing is rejected unless the last level is reached. -/
theorem publish_maxHop_of_rejections {bus : Bus} {sender : ModuleId} {seed : Message}
    (rejected : (bus.publish sender seed).rejections ≠ []) :
    (bus.publish sender seed).maxHop = bus.hopLimit := by
  have inhabited : bus.level sender seed bus.hopLimit.toNat ≠ [] := by
    intro empty
    rw [publish_rejections, level_eq_nil_of_le (Nat.le_succ _) empty] at rejected
    exact rejected rfl
  apply UInt32.toNat_inj.mp
  exact Nat.le_antisymm (publish_maxHop_le_hopLimit bus sender seed)
    (le_publish_maxHop (Nat.le_refl _) inhabited)

/-- The publications are the levels down to the hop limit, the rejections the level below, and
apart from rejections the hops of a cascade never decrease. -/
theorem publish_in_level_order (bus : Bus) (below : bus.hopLimit.toNat < UInt32.size - 1)
    (sender : ModuleId) (seed : Message) :
    let cascade := bus.publish sender seed
    let limit := bus.hopLimit.toNat
    (cascade.publications.map fun p => (p.index, p.hop.toNat, p.sender, p.senderName, p.message)) =
        ((bus.levels sender seed limit).zipIdx.map fun ((depth, id, message), index) =>
          (index, depth, id, bus.nameOf id, message)) ∧
      (cascade.rejections.map fun r =>
          (r.hop.toNat, r.limit, r.sender, r.senderName, r.message)) =
        ((bus.level sender seed (limit + 1)).map fun (id, message) =>
          (limit + 1, bus.hopLimit, id, bus.nameOf id, message)) ∧
      ((cascade.events.filter fun event => !event.isRejection).Pairwise
        fun a b => a.hop ≤ b.hop) ∧
      (cascade.rejections ≠ [] → cascade.maxHop = bus.hopLimit) := by
  dsimp only
  refine ⟨publish_publications_levels bus sender seed,
    publish_rejections_level below sender seed, ?_, publish_maxHop_of_rejections⟩
  rw [publish_events]
  exact segments_sorted 0 (served_sorted bus sender seed)

theorem publish_in_level_order_echoes :
    let cascade := (echoes 1).publish 0 .empty
    (echoes 1).hopLimit.toNat < UInt32.size - 1 ∧
      (cascade.publications.map fun p =>
          (p.index, p.hop.toNat, p.sender, p.senderName, p.message)) =
        [(0, 0, 0, "a", .empty), (1, 1, 1, "b", .empty), (2, 1, 2, "c", .empty)] ∧
      (cascade.rejections.map fun r =>
          (r.hop.toNat, r.limit, r.sender, r.senderName, r.message)) =
        [(2, 1, 0, "a", .empty), (2, 1, 2, "c", .empty), (2, 1, 0, "a", .empty),
          (2, 1, 1, "b", .empty)] ∧
      cascade.maxHop = 1 := by
  intro cascade
  have below : (echoes 1).hopLimit.toNat < UInt32.size - 1 := by decide
  obtain ⟨publications, rejections, _, highest⟩ :=
    publish_in_level_order (echoes 1) below 0 .empty
  refine ⟨below, publications.trans rfl, rejections.trans rfl, highest ?_⟩
  intro none
  have empty := none ▸ rejections
  cases empty

end GatewaySim.Bus
