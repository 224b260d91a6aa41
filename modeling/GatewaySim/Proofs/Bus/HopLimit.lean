import GatewaySim.Proofs.Bus.Segments

/-! # Raising the hop limit

A higher limit only goes on where the lower one stopped. Up to the lower limit both cascades serve
the same entries; there, one rejects what the other publishes next (`publish_raise_hopLimit`).
-/

namespace GatewaySim

def Event.publishesAt (hop : Nat) (event : Event) : Bool :=
  event.publication?.any fun publication => publication.hop.toNat = hop

namespace Bus

def withHopLimit (bus : Bus) (limit : UInt32) : Bus := { bus with hopLimit := limit }

@[simp] theorem modules_withHopLimit (bus : Bus) (limit : UInt32) :
    (bus.withHopLimit limit).modules = bus.modules := rfl

@[simp] theorem hopLimit_withHopLimit (bus : Bus) (limit : UInt32) :
    (bus.withHopLimit limit).hopLimit = limit := rfl

variable {bus : Bus} {limit : UInt32} {sender : ModuleId} {seed : Message}

@[simp] theorem level_withHopLimit :
    (bus.withHopLimit limit).level sender seed = bus.level sender seed :=
  funext (level_congr (modules_withHopLimit bus limit) sender seed)

@[simp] theorem waiting_withHopLimit :
    (bus.withHopLimit limit).waiting sender seed = bus.waiting sender seed := by
  funext depth
  rw [waiting, waiting, level_withHopLimit]

/-! ## Segments within the limit -/

/-- Only rejections depend on the limit. -/
theorem segments_filter_withHopLimit (index : Nat) (queue : List Pending) :
    (((bus.withHopLimit limit).segments index queue).filter fun event => !event.isRejection) =
      (bus.segments index queue).filter fun event => !event.isRejection := by
  rw [segments, segments, List.filter_flatMap, List.filter_flatMap]
  apply List.flatMap_congr
  intro entry _
  rw [segment_filter, segment_filter]
  rfl

/-- Below the limit nothing is rejected. -/
theorem segments_filter_of_lt {index : Nat} {queue : List Pending}
    (below : ∀ pending, pending ∈ queue → pending.hop < bus.hopLimit) :
    ((bus.segments index queue).filter fun event => !event.isRejection) =
      bus.segments index queue := by
  have none : (bus.segments index queue).filterMap Event.rejection? = [] := by
    rw [segments_rejections, List.flatMap_eq_nil_iff]
    intro pending member
    exact if_pos (below pending member)
  rw [List.filter_eq_self]
  intro event member
  simp [Event.isRejection, List.filterMap_eq_nil_iff.mp none event member]

theorem publishesAt_eq_false_of_mem_segments {index : Nat} {queue : List Pending} {event : Event}
    {hop : Nat} (other : ∀ pending, pending ∈ queue → pending.hop.toNat ≠ hop)
    (member : event ∈ bus.segments index queue) : event.publishesAt hop = false := by
  cases shown : event.publication? with
  | none => simp [Event.publishesAt, shown]
  | some publication =>
    have found : publication ∈ (bus.segments index queue).filterMap Event.publication? :=
      List.mem_filterMap.mpr ⟨event, member, shown⟩
    rw [segments_publications] at found
    obtain ⟨⟨pending, place⟩, inside, rfl⟩ := List.mem_map.mp found
    have differs : (bus.publication place pending).hop.toNat ≠ hop :=
      other pending (List.fst_mem_of_mem_zipIdx inside)
    simpa [Event.publishesAt, shown] using differs

/-! ## What lies beyond the lower limit -/

/-- The entries that only a higher limit serves, after the first level of them. -/
def deeper (bus : Bus) (sender : ModuleId) (seed : Message) (limit : UInt32) : List Pending :=
  (List.range' (bus.hopLimit.toNat + 2) (limit.toNat - bus.hopLimit.toNat - 1)).flatMap
    (bus.waiting sender seed)

theorem served_withHopLimit (raised : bus.hopLimit < limit) :
    (bus.withHopLimit limit).served sender seed =
      bus.served sender seed ++
        (bus.waiting sender seed (bus.hopLimit.toNat + 1) ++ bus.deeper sender seed limit) := by
  have lt := UInt32.lt_iff_toNat_lt.mp raised
  have count : limit.toNat + 1 =
      (bus.hopLimit.toNat + 1) + ((limit.toNat - bus.hopLimit.toNat - 1) + 1) := by omega
  rw [served, served, waiting_withHopLimit, hopLimit_withHopLimit, List.range_eq_range',
    List.range_eq_range', count, ← List.range'_append_1, Nat.zero_add, List.range'_succ,
    List.flatMap_append, List.flatMap_cons]
  rfl

theorem toNat_hop_of_mem_served {pending : Pending} (member : pending ∈ bus.served sender seed) :
    pending.hop.toNat ≤ bus.hopLimit.toNat := by
  obtain ⟨depth, bound, hop, _⟩ := mem_served_iff.mp member
  rw [hop, UInt32.toNat_ofNat_of_lt' (Nat.lt_of_le_of_lt bound bus.hopLimit.toNat_lt_size)]
  exact bound

theorem toNat_hop_of_mem_waiting (raised : bus.hopLimit < limit) {pending : Pending}
    (member : pending ∈ bus.waiting sender seed (bus.hopLimit.toNat + 1)) :
    pending.hop.toNat = bus.hopLimit.toNat + 1 := by
  have lt := UInt32.lt_iff_toNat_lt.mp raised
  have size := limit.toNat_lt_size
  rw [(hop_of_mem_waiting member).1, UInt32.toNat_ofNat_of_lt' (by omega)]

theorem toNat_hop_of_mem_deeper {pending : Pending}
    (member : pending ∈ bus.deeper sender seed limit) :
    bus.hopLimit.toNat + 1 < pending.hop.toNat := by
  obtain ⟨depth, range, member⟩ := List.mem_flatMap.mp member
  have size := limit.toNat_lt_size
  rw [List.mem_range'_1] at range
  rw [(hop_of_mem_waiting member).1, UInt32.toNat_ofNat_of_lt' (by omega)]
  omega

theorem deeper_eq_nil (empty : bus.level sender seed (bus.hopLimit.toNat + 1) = []) :
    bus.deeper sender seed limit = [] := by
  rw [deeper, List.flatMap_eq_nil_iff]
  intro depth range
  rw [List.mem_range'_1] at range
  rw [waiting, level_eq_nil_of_le (by omega) empty, List.map_nil]

/-- The entries of the first level beyond the lower limit, picked out by their hop. -/
theorem served_withHopLimit_filter (raised : bus.hopLimit < limit) :
    (((bus.withHopLimit limit).served sender seed).filter fun pending =>
        pending.hop.toNat = bus.hopLimit.toNat + 1) =
      bus.waiting sender seed (bus.hopLimit.toNat + 1) := by
  have before : ((bus.served sender seed).filter fun pending =>
      pending.hop.toNat = bus.hopLimit.toNat + 1) = [] := by
    rw [List.filter_eq_nil_iff]
    intro pending member
    have := toNat_hop_of_mem_served member
    simp only [decide_eq_true_eq]
    omega
  have behind : ((bus.deeper sender seed limit).filter fun pending =>
      pending.hop.toNat = bus.hopLimit.toNat + 1) = [] := by
    rw [List.filter_eq_nil_iff]
    intro pending member
    have := toNat_hop_of_mem_deeper member
    simp only [decide_eq_true_eq]
    omega
  rw [served_withHopLimit raised, List.filter_append, List.filter_append, before, behind,
    List.nil_append, List.append_nil, List.filter_eq_self]
  intro pending member
  simpa using toNat_hop_of_mem_waiting raised member

/-- The publications of one hop, without their numbers. -/
theorem publish_publications_filter (bus : Bus) (sender : ModuleId) (seed : Message) (hop : Nat) :
    (((bus.publish sender seed).publications.filter fun p => p.hop.toNat = hop).map fun p =>
        (p.hop.toNat, p.sender, p.senderName, p.message)) =
      (((bus.served sender seed).filter fun pending => pending.hop.toNat = hop).map fun pending =>
        (pending.hop.toNat, pending.sender, bus.nameOf pending.sender, pending.message)) := by
  conv_rhs => rw [← List.zipIdx_map_fst 0 (bus.served sender seed), List.filter_map, List.map_map]
  rw [publish_publications, List.filter_map, List.map_map]
  rfl

/-! ## Two cascades -/

/-- What the higher limit shows until it publishes beyond the lower one. -/
theorem publish_withHopLimit_takeWhile (raised : bus.hopLimit < limit) :
    (((bus.withHopLimit limit).publish sender seed).events.takeWhile fun event =>
        !event.publishesAt (bus.hopLimit.toNat + 1)) =
      (bus.withHopLimit limit).segments 0 (bus.served sender seed) := by
  have lt := UInt32.lt_iff_toNat_lt.mp raised
  have within : ∀ event,
      event ∈ (bus.withHopLimit limit).segments 0 (bus.served sender seed) →
        (!event.publishesAt (bus.hopLimit.toNat + 1)) = true := by
    intro event member
    rw [publishesAt_eq_false_of_mem_segments _ member]
    · rfl
    · intro pending served
      have := toNat_hop_of_mem_served served
      omega
  rw [publish_events, served_withHopLimit raised, segments_append,
    List.takeWhile_append_of_pos within]
  -- The next event publishes beyond the lower limit, unless there is no next event at all.
  cases first : bus.waiting sender seed (bus.hopLimit.toNat + 1) with
  | nil =>
    rw [deeper_eq_nil (List.map_eq_nil_iff.mp first), List.append_nil, segments_nil,
      List.takeWhile_nil, List.append_nil]
  | cons pending rest =>
    have hop := toNat_hop_of_mem_waiting raised (first ▸ List.mem_cons_self ..)
    rw [List.cons_append, segments_cons, segment, List.cons_append, List.takeWhile_cons_of_neg,
      List.append_nil]
    simp [Event.publishesAt, hop]

theorem publish_filter (raised : bus.hopLimit < limit) :
    ((bus.publish sender seed).events.filter fun event => !event.isRejection) =
      (bus.withHopLimit limit).segments 0 (bus.served sender seed) := by
  have lt := UInt32.lt_iff_toNat_lt.mp raised
  rw [publish_events, ← segments_filter_withHopLimit, segments_filter_of_lt]
  intro pending member
  have bound := toNat_hop_of_mem_served member
  rw [hopLimit_withHopLimit, UInt32.lt_iff_toNat_lt]
  omega

/-- What the lower limit rejects is what the higher one publishes next. -/
theorem publish_rejections_beyond (raised : bus.hopLimit < limit) :
    ((bus.publish sender seed).rejections.map fun r =>
        (r.hop.toNat, r.sender, r.senderName, r.message)) =
      (((bus.withHopLimit limit).publish sender seed).publications.filter fun p =>
          p.hop.toNat = bus.hopLimit.toNat + 1).map fun p =>
        (p.hop.toNat, p.sender, p.senderName, p.message) := by
  have size := Nat.lt_of_le_of_lt (UInt32.lt_iff_toNat_lt.mp raised) limit.toNat_lt_size
  rw [publish_publications_filter, served_withHopLimit_filter raised, publish_rejections,
    waiting, List.map_map, List.map_map]
  apply List.map_congr_left
  intro entry _
  simp only [Function.comp_apply, rejection, toNat_hop_add_one_of_lt raised,
    UInt32.toNat_ofNat_of_lt' size]
  rfl

theorem filter_eq_self_of_isComplete {cascade : Cascade} (complete : cascade.isComplete) :
    (cascade.events.filter fun event => !event.isRejection) = cascade.events := by
  rw [List.filter_eq_self]
  intro event member
  have none := List.filterMap_eq_nil_iff.mp (List.isEmpty_iff.mp complete) event member
  simp [Event.isRejection, none]

theorem publish_withHopLimit_of_isComplete (raised : bus.hopLimit < limit)
    (complete : (bus.publish sender seed).isComplete) :
    (bus.withHopLimit limit).publish sender seed = bus.publish sender seed := by
  have empty := publish_isComplete_iff.mp complete
  have all : (bus.withHopLimit limit).served sender seed = bus.served sender seed := by
    rw [served_withHopLimit raised, deeper_eq_nil empty, waiting, empty, List.map_nil,
      List.append_nil, List.append_nil]
  have events : ((bus.withHopLimit limit).publish sender seed).events =
      (bus.publish sender seed).events := by
    rw [← filter_eq_self_of_isComplete complete, publish_filter raised, publish_events, all]
  exact congrArg Cascade.mk events

/-- Apart from its rejections, a cascade is the part of the longer one before the first publication
beyond the lower limit; its rejections are those publications, and without any it stays the same. -/
theorem publish_raise_hopLimit (bus : Bus) (limit : UInt32) (raised : bus.hopLimit < limit)
    (sender : ModuleId) (seed : Message) :
    let shorter := bus.publish sender seed
    let longer := (bus.withHopLimit limit).publish sender seed
    let beyond := bus.hopLimit.toNat + 1
    (shorter.events.filter fun event => !event.isRejection) =
        (longer.events.takeWhile fun event => !event.publishesAt beyond) ∧
      (shorter.rejections.map fun r => (r.hop.toNat, r.sender, r.senderName, r.message)) =
        ((longer.publications.filter fun p => p.hop.toNat = beyond).map fun p =>
          (p.hop.toNat, p.sender, p.senderName, p.message)) ∧
      (shorter.isComplete → longer = shorter) := by
  dsimp only
  refine ⟨?_, publish_rejections_beyond raised, publish_withHopLimit_of_isComplete raised⟩
  rw [publish_filter raised, publish_withHopLimit_takeWhile raised]

theorem publish_raise_hopLimit_echoes :
    let longer := (echoes 2).publish 0 .empty
    (1 : UInt32) < 2 ∧
      ((longer.publications.filter fun p => p.hop.toNat = 2).map fun p =>
          (p.hop.toNat, p.sender, p.senderName, p.message)) =
        [(2, 0, "a", .empty), (2, 2, "c", .empty), (2, 0, "a", .empty), (2, 1, "b", .empty)] := by
  intro longer
  have raised : (1 : UInt32) < 2 := by decide
  obtain ⟨_, rejections, _⟩ := publish_raise_hopLimit (echoes 1) 2 raised 0 .empty
  rw [publish_rejections] at rejections
  exact ⟨raised, rejections.symm.trans rfl⟩

end Bus

end GatewaySim
