import GatewaySim.Proofs.Bus.Shape

/-! # The range of hops

A hop is a 32-bit number, and the hop of a derived message is that of its parent plus one, also
where the derived message is rejected. The sum stays in range, and a rejection shows the hop that
its message would have had, unless something is rejected at the greatest limit there is: there the
sum starts again from zero (`hops_in_range_iff`).
-/

namespace GatewaySim.Bus

/-- The hops that are computed for the messages that a cascade derives, as natural numbers. -/
def computedHops (bus : Bus) (cascade : Cascade) : List Nat :=
  cascade.publications.flatMap fun p =>
    (bus.children p.sender p.message).map fun _ => p.hop.toNat + 1

/-- Whether all hops that a cascade computes are 32-bit numbers, and every rejection is one hop
beyond its limit. -/
def HopsInRange (bus : Bus) (cascade : Cascade) : Prop :=
  (∀ hop, hop ∈ bus.computedHops cascade → hop < UInt32.size) ∧
    ∀ rejection, rejection ∈ cascade.rejections →
      rejection.hop.toNat = rejection.limit.toNat + 1 ∧ rejection.limit < rejection.hop

variable {bus : Bus} {sender : ModuleId} {seed : Message}

/-- The computed hops are those of the levels below the seed that are not empty, down to the first
beyond the hop limit. -/
theorem mem_computedHops_iff {hop : Nat} :
    hop ∈ bus.computedHops (bus.publish sender seed) ↔
      ∃ depth, hop = depth + 1 ∧ depth ≤ bus.hopLimit.toNat ∧
        bus.level sender seed (depth + 1) ≠ [] := by
  simp only [computedHops, List.mem_flatMap, List.mem_map]
  constructor
  · intro computed
    obtain ⟨p, published, child, derived, rfl⟩ := computed
    obtain ⟨depth, bound, place, above⟩ := exists_level_of_mem_publications published
    exact ⟨depth, congrArg (· + 1) place, bound,
      List.ne_nil_of_mem (mem_level_succ above derived)⟩
  · intro deep
    obtain ⟨depth, rfl, bound, inhabited⟩ := deep
    obtain ⟨child, member⟩ := List.exists_mem_of_ne_nil _ inhabited
    obtain ⟨parent, above, derived⟩ := List.mem_flatMap.mp member
    obtain ⟨p, published, place, from_, text⟩ := exists_publication_of_mem_level bound above
    rw [← from_, ← text] at derived
    exact ⟨p, published, child, derived, congrArg (· + 1) place⟩

theorem rejection_of_mem_rejections {rejection : Rejection}
    (member : rejection ∈ (bus.publish sender seed).rejections) :
    rejection.hop = bus.hopLimit + 1 ∧ rejection.limit = bus.hopLimit := by
  rw [publish_rejections] at member
  obtain ⟨entry, _, rfl⟩ := List.mem_map.mp member
  exact ⟨rfl, rfl⟩

theorem hopsInRange_of_lt (below : bus.hopLimit.toNat < UInt32.size - 1) :
    bus.HopsInRange (bus.publish sender seed) := by
  constructor
  · intro hop computed
    obtain ⟨depth, rfl, bound, _⟩ := mem_computedHops_iff.mp computed
    omega
  · intro rejection member
    obtain ⟨_, limit⟩ := rejection_of_mem_rejections member
    have beyond := toNat_hop_of_mem_rejections below member
    rw [limit, UInt32.lt_iff_toNat_lt, beyond]
    exact ⟨rfl, Nat.lt_succ_self _⟩

theorem hopsInRange_of_isComplete (complete : (bus.publish sender seed).isComplete) :
    bus.HopsInRange (bus.publish sender seed) := by
  constructor
  · intro hop computed
    obtain ⟨depth, rfl, bound, inhabited⟩ := mem_computedHops_iff.mp computed
    -- at the limit itself nothing is derived
    have below : depth ≠ bus.hopLimit.toNat := by
      rintro rfl
      exact inhabited (publish_isComplete_iff.mp complete)
    have size := bus.hopLimit.toNat_lt_size
    omega
  · intro rejection member
    rw [List.isEmpty_iff.mp complete] at member
    cases member

theorem hop_eq_zero_of_mem_rejections (top : bus.hopLimit.toNat = UInt32.size - 1)
    {rejection : Rejection} (member : rejection ∈ (bus.publish sender seed).rejections) :
    rejection.hop = 0 := by
  have greatest : bus.hopLimit = UInt32.ofNat (UInt32.size - 1) := UInt32.toNat_inj.mp top
  rw [(rejection_of_mem_rejections member).1, greatest]
  rfl

/-! ## A message that goes on for ever -/

def pingPong (limit : UInt32) : Bus where
  modules := ["ping", "pong"].map fun name => { name, receive := fun m => [.derive "echo" m] }
  hopLimit := limit

theorem level_pingPong (limit : UInt32) (seed : Message) (depth : Nat) :
    (pingPong limit).level 0 seed depth = [(depth % 2, seed)] := by
  induction depth with
  | zero => rfl
  | succ depth ih =>
    rw [level_succ, ih, List.flatMap_singleton]
    rw [Nat.add_mod depth 1 2]
    rcases Nat.mod_two_eq_zero_or_one depth with even | odd
    · rw [even]
      rfl
    · rw [odd]
      rfl

theorem rejections_pingPong (limit : UInt32) (seed : Message) :
    ((pingPong limit).publish 0 seed).rejections =
      [(pingPong limit).rejection (limit + 1) ((limit.toNat + 1) % 2, seed)] := by
  rw [publish_rejections, level_pingPong]
  rfl

/-! ## Exactly when hops stay in range -/

/-- All hops stay in range, and every rejection is one hop beyond its limit, exactly when the limit
is not the greatest 32-bit number or nothing is rejected. At the greatest limit, whatever is
rejected has hop zero. -/
theorem hops_in_range_iff (bus : Bus) (sender : ModuleId) (seed : Message) :
    let cascade := bus.publish sender seed
    (bus.HopsInRange cascade ↔
      bus.hopLimit.toNat < UInt32.size - 1 ∨ cascade.isComplete) ∧
    (bus.hopLimit.toNat = UInt32.size - 1 →
      ∀ rejection, rejection ∈ cascade.rejections → rejection.hop = 0) := by
  intro cascade
  refine ⟨⟨fun inRange => ?_, fun sound => ?_⟩, fun top _ => hop_eq_zero_of_mem_rejections top⟩
  · rcases Nat.lt_or_eq_of_le (Nat.le_sub_one_of_lt bus.hopLimit.toNat_lt_size) with below | top
    · exact .inl below
    · refine .inr (List.isEmpty_iff.mpr (List.eq_nil_iff_forall_not_mem.mpr ?_))
      intro rejection member
      have beyond := (inRange.2 rejection member).1
      rw [hop_eq_zero_of_mem_rejections top member] at beyond
      cases beyond
  · rcases sound with below | complete
    · exact hopsInRange_of_lt below
    · exact hopsInRange_of_isComplete complete

/-- Whatever the limit, one message is rejected in the end; at the greatest it has hop zero. -/
theorem hops_in_range_iff_pingPong :
    let low := pingPong 3
    let top := pingPong 4294967295
    low.HopsInRange (low.publish 0 .empty) ∧ ¬ top.HopsInRange (top.publish 0 .empty) ∧
      top.hopLimit.toNat = UInt32.size - 1 ∧ (low.publish 0 .empty).rejections.length = 1 ∧
      (top.publish 0 .empty).rejections.length = 1 ∧
      ∀ rejection, rejection ∈ (top.publish 0 .empty).rejections → rejection.hop = 0 := by
  intro low top
  obtain ⟨lowRange, _⟩ := hops_in_range_iff low 0 .empty
  obtain ⟨topRange, restart⟩ := hops_in_range_iff top 0 .empty
  have below : low.hopLimit.toNat < UInt32.size - 1 := by decide
  have greatest : top.hopLimit.toNat = UInt32.size - 1 := rfl
  have one := congrArg List.length (rejections_pingPong 4294967295 .empty)
  refine ⟨lowRange.mpr (.inl below), ?_, greatest,
    congrArg List.length (rejections_pingPong 3 .empty), one, restart greatest⟩
  rw [topRange, greatest]
  rintro (less | complete)
  · exact Nat.lt_irrefl _ less
  · rw [Cascade.isComplete, List.isEmpty_iff_length_eq_zero, one] at complete
    cases complete

/-- The message comes to the greatest limit, where a hop is computed that is no 32-bit number, and
it is rejected with hop zero. -/
theorem hops_out_of_range :
    let bus := pingPong 4294967295
    let cascade := bus.publish 0 .empty
    UInt32.size ∈ bus.computedHops cascade ∧
      cascade.rejections = [⟨0, 4294967295, 0, "ping", .empty⟩] ∧ ¬ bus.HopsInRange cascade := by
  intro bus cascade
  have computed : UInt32.size ∈ bus.computedHops cascade :=
    mem_computedHops_iff.mpr ⟨4294967295, rfl, Nat.le_refl _, by
      rw [level_pingPong]
      exact List.cons_ne_nil _ _⟩
  have even : ((4294967295 : UInt32).toNat + 1) % 2 = 0 := by decide
  have rejected := rejections_pingPong 4294967295 .empty
  rw [even] at rejected
  exact ⟨computed, rejected, fun inRange => Nat.lt_irrefl _ (inRange.1 _ computed)⟩

end GatewaySim.Bus
