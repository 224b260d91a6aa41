import GatewaySim.Proofs.Bus.Levels
import Mathlib.Data.List.Basic

/-! # What a cascade shows

The publications and the rejections of a cascade, read off the segments that it consists of: one
publication for each entry that is served, and a rejection for each message that the last level
derives. The highest hop is the last level that is not empty.
-/

namespace GatewaySim

def Event.hop : Event → UInt32
  | .published publication => publication.hop
  | .received receipt => receipt.hop
  | .rejected rejection => rejection.hop

def Event.isRejection (event : Event) : Bool := event.rejection?.isSome

namespace Event

variable (publication : Publication) (receipt : Receipt) (rejection : Rejection)

@[simp] theorem publication?_published :
    (published publication).publication? = some publication := rfl

@[simp] theorem publication?_received : (received receipt).publication? = none := rfl

@[simp] theorem rejection?_published : (published publication).rejection? = none := rfl

@[simp] theorem rejection?_received : (received receipt).rejection? = none := rfl

@[simp] theorem rejection?_rejected : (rejected rejection).rejection? = some rejection := rfl

end Event

namespace Cascade

theorem foldl_max_hop_le_iff (publications : List Publication) (start : UInt32) (bound : Nat) :
    (publications.foldl (fun highest publication => max highest publication.hop) start).toNat ≤
        bound ↔
      start.toNat ≤ bound ∧
        ∀ publication, publication ∈ publications → publication.hop.toNat ≤ bound := by
  induction publications generalizing start with
  | nil => simp
  | cons publication rest ih =>
    have hmax : (max start publication.hop).toNat ≤ bound ↔
        start.toNat ≤ bound ∧ publication.hop.toNat ≤ bound := by
      rw [show max start publication.hop =
        if start ≤ publication.hop then publication.hop else start from rfl]
      split
      next le => have := UInt32.le_iff_toNat_le.mp le; omega
      next gt => have := mt UInt32.le_iff_toNat_le.mpr gt; omega
    rw [List.foldl_cons, ih, hmax, List.forall_mem_cons, and_assoc]

theorem maxHop_le_iff {cascade : Cascade} {bound : Nat} :
    cascade.maxHop.toNat ≤ bound ↔
      ∀ publication, publication ∈ cascade.publications → publication.hop.toNat ≤ bound := by
  rw [Cascade.maxHop, foldl_max_hop_le_iff]
  simp

theorem hop_le_maxHop {cascade : Cascade} {publication : Publication}
    (member : publication ∈ cascade.publications) :
    publication.hop.toNat ≤ cascade.maxHop.toNat :=
  maxHop_le_iff.mp (Nat.le_refl _) publication member

theorem maxHop_le_iff_hops {cascade : Cascade} {bound : Nat} :
    cascade.maxHop.toNat ≤ bound ↔
      ∀ hop, hop ∈ cascade.publications.map Publication.hop → hop.toNat ≤ bound := by
  rw [maxHop_le_iff, List.forall_mem_map]

/-- The highest hop depends on which hops there are, not on their order. -/
theorem maxHop_eq_of_perm {cascade other : Cascade}
    (perm : (cascade.publications.map Publication.hop).Perm
      (other.publications.map Publication.hop)) : cascade.maxHop = other.maxHop := by
  have le_iff : ∀ bound,
      cascade.maxHop.toNat ≤ bound ↔ other.maxHop.toNat ≤ bound := by
    intro bound
    rw [maxHop_le_iff_hops, maxHop_le_iff_hops]
    exact forall_congr' fun hop => by rw [perm.mem_iff]
  apply UInt32.toNat_inj.mp
  exact Nat.le_antisymm ((le_iff _).mpr (Nat.le_refl _)) ((le_iff _).mp (Nat.le_refl _))

end Cascade

namespace Bus

/-! ## One segment -/

def publication (bus : Bus) (index : Nat) (pending : Pending) : Publication :=
  { index := index
    hop := pending.hop
    sender := pending.sender
    senderName := bus.nameOf pending.sender
    message := pending.message }

def receipt (index : Nat) (pending : Pending) (response : Response) : Receipt :=
  { publication := index
    hop := pending.hop
    receiver := response.id
    receiverName := response.name
    rule := response.reaction.rule
    message := pending.message }

def rejection (bus : Bus) (hop : UInt32) (entry : ModuleId × Message) : Rejection :=
  { hop := hop
    limit := bus.hopLimit
    sender := entry.1
    senderName := bus.nameOf entry.1
    message := entry.2 }

theorem mem_responses_iff {bus : Bus} {sender : ModuleId} {message : Message}
    {response : Response} :
    response ∈ bus.responses sender message ↔
      ∃ module, bus.modules[response.id]? = some module ∧ response.id ≠ sender ∧
        response.name = module.name ∧ response.reaction ∈ module.receive message := by
  obtain ⟨id, name, reaction⟩ := response
  simp only [responses, List.mem_flatMap, Prod.exists, List.mem_zipIdx_iff_getElem?]
  constructor
  · intro shown
    obtain ⟨module, place, found, member⟩ := shown
    by_cases own : place = sender
    · simp [own] at member
    · simp only [own, if_false, List.mem_map, Response.mk.injEq] at member
      obtain ⟨_, reacts, rfl, rfl, rfl⟩ := member
      exact ⟨module, found, own, rfl, reacts⟩
  · intro reacts
    obtain ⟨module, found, other, rfl, reacts⟩ := reacts
    refine ⟨module, id, found, ?_⟩
    simpa [other] using reacts

theorem name_of_mem_responses {bus : Bus} {sender : ModuleId} {message : Message}
    {response : Response} (member : response ∈ bus.responses sender message) :
    response.name = bus.nameOf response.id := by
  obtain ⟨module, found, _, named, _⟩ := mem_responses_iff.mp member
  simp [nameOf, found, named]

theorem responseEvents_publications (bus : Bus) (index : Nat) (pending : Pending)
    (response : Response) :
    (bus.responseEvents index pending response).filterMap Event.publication? = [] := by
  unfold responseEvents
  dsimp only
  split
  · rfl
  · split <;> rfl

theorem responseEvents_rejections {bus : Bus} (index : Nat) (pending : Pending)
    {response : Response} (named : response.name = bus.nameOf response.id) :
    (bus.responseEvents index pending response).filterMap Event.rejection? =
      if pending.hop < bus.hopLimit then []
      else (response.reaction.republish.map fun derived =>
        bus.rejection (pending.hop + 1) (response.id, derived)).toList := by
  unfold responseEvents
  dsimp only
  split
  next reports => simp [reports]
  next derived republishes =>
    split
    · rfl
    · simp [republishes, rejection, named, List.filterMap_cons]

theorem segment_publications (bus : Bus) (index : Nat) (pending : Pending) :
    (bus.segment index pending).filterMap Event.publication? = [bus.publication index pending] := by
  have none : (bus.responses pending.sender pending.message).flatMap (fun response =>
      (bus.responseEvents index pending response).filterMap Event.publication?) = [] := by
    simp only [responseEvents_publications, List.flatMap_eq_nil_iff, implies_true]
  rw [segment, List.filterMap_cons_some (Event.publication?_published _), List.filterMap_flatMap,
    none]
  rfl

theorem segment_rejections (bus : Bus) (index : Nat) (pending : Pending) :
    (bus.segment index pending).filterMap Event.rejection? =
      if pending.hop < bus.hopLimit then []
      else (bus.children pending.sender pending.message).map
        (bus.rejection (pending.hop + 1)) := by
  have each := List.flatMap_congr fun (response : Response)
      (member : response ∈ bus.responses pending.sender pending.message) =>
    responseEvents_rejections index pending (name_of_mem_responses member)
  rw [segment, List.filterMap_cons_none (Event.rejection?_published _), List.filterMap_flatMap,
    each]
  split
  · simp
  · rw [children_eq_responses, List.map_filterMap, List.filterMap_eq_flatMap_toList]
    simp only [Option.map_map, Function.comp_def]

/-- Apart from rejections, a segment is the publication with a receipt for each response. -/
theorem segment_filter (bus : Bus) (index : Nat) (pending : Pending) :
    ((bus.segment index pending).filter fun event => !event.isRejection) =
      .published (bus.publication index pending) ::
        (bus.responses pending.sender pending.message).map fun response =>
          .received (receipt index pending response) := by
  have each : ∀ response,
      ((bus.responseEvents index pending response).filter fun event => !event.isRejection) =
        [.received (receipt index pending response)] := by
    intro response
    unfold responseEvents
    dsimp only
    split
    · rfl
    · split <;> rfl
  rw [segment, List.filter_cons_of_pos rfl, List.filter_flatMap, List.map_eq_flatMap]
  simp only [each]
  rfl

/-- Everything in a segment but its rejections has the hop of the publication. -/
theorem hop_of_mem_segment {bus : Bus} {index : Nat} {pending : Pending} {event : Event}
    (member : event ∈ (bus.segment index pending).filter fun event => !event.isRejection) :
    event.hop = pending.hop := by
  rw [segment_filter] at member
  rcases List.mem_cons.mp member with rfl | member
  · rfl
  · obtain ⟨response, _, rfl⟩ := List.mem_map.mp member
    rfl

/-! ## The whole cascade -/

theorem segments_publications (bus : Bus) (index : Nat) (queue : List Pending) :
    (bus.segments index queue).filterMap Event.publication? =
      (queue.zipIdx index).map fun entry => bus.publication entry.2 entry.1 := by
  rw [segments, List.filterMap_flatMap]
  simp only [segment_publications]
  rw [List.map_eq_flatMap]

theorem segments_rejections (bus : Bus) (index : Nat) (queue : List Pending) :
    (bus.segments index queue).filterMap Event.rejection? =
      queue.flatMap fun pending =>
        if pending.hop < bus.hopLimit then []
        else (bus.children pending.sender pending.message).map
          (bus.rejection (pending.hop + 1)) := by
  induction queue generalizing index with
  | nil => rfl
  | cons pending rest ih =>
    rw [segments_cons, List.filterMap_append, segment_rejections, ih, List.flatMap_cons]

theorem hop_of_mem_waiting {bus : Bus} {sender : ModuleId} {seed : Message} {depth : Nat}
    {pending : Pending} (member : pending ∈ bus.waiting sender seed depth) :
    pending.hop = UInt32.ofNat depth ∧
      (pending.sender, pending.message) ∈ bus.level sender seed depth := by
  obtain ⟨entry, found, rfl⟩ := List.mem_map.mp member
  exact ⟨rfl, found⟩

theorem mem_served_iff {bus : Bus} {sender : ModuleId} {seed : Message} {pending : Pending} :
    pending ∈ bus.served sender seed ↔
      ∃ depth, depth ≤ bus.hopLimit.toNat ∧ pending.hop = UInt32.ofNat depth ∧
        (pending.sender, pending.message) ∈ bus.level sender seed depth := by
  simp only [served, List.mem_flatMap, List.mem_range]
  constructor
  · rintro ⟨depth, bound, member⟩
    exact ⟨depth, by omega, hop_of_mem_waiting member⟩
  · rintro ⟨depth, bound, hop, member⟩
    refine ⟨depth, by omega, List.mem_map.mpr ⟨_, member, ?_⟩⟩
    rw [← hop]

theorem publish_publications (bus : Bus) (sender : ModuleId) (seed : Message) :
    (bus.publish sender seed).publications =
      (bus.served sender seed).zipIdx.map fun entry => bus.publication entry.2 entry.1 := by
  rw [Cascade.publications, publish_events, segments_publications]

/-- What is rejected is the level below the hop limit. -/
theorem publish_rejections (bus : Bus) (sender : ModuleId) (seed : Message) :
    (bus.publish sender seed).rejections =
      (bus.level sender seed (bus.hopLimit.toNat + 1)).map
        (bus.rejection (bus.hopLimit + 1)) := by
  have above : ∀ depth, depth ∈ List.range bus.hopLimit.toNat →
      ((bus.waiting sender seed depth).flatMap fun pending =>
        if pending.hop < bus.hopLimit then []
        else (bus.children pending.sender pending.message).map
          (bus.rejection (pending.hop + 1))) = [] := by
    intro depth bound
    rw [List.flatMap_eq_nil_iff]
    intro pending member
    rw [(hop_of_mem_waiting member).1, if_pos (ofNat_lt_hopLimit (List.mem_range.mp bound))]
  rw [Cascade.rejections, publish_events, segments_rejections, served, List.range_succ,
    List.flatMap_append, List.flatMap_append, List.flatMap_assoc, List.flatMap_singleton,
    List.flatMap_eq_nil_iff.mpr above, List.nil_append, waiting, List.flatMap_map, level_succ,
    List.map_flatMap]
  apply List.flatMap_congr
  intro entry _
  simp

theorem publish_isComplete_iff {bus : Bus} {sender : ModuleId} {seed : Message} :
    (bus.publish sender seed).isComplete ↔
      bus.level sender seed (bus.hopLimit.toNat + 1) = [] := by
  rw [Cascade.isComplete, publish_rejections, List.isEmpty_iff, List.map_eq_nil_iff]

theorem exists_level_of_mem_publications {bus : Bus} {sender : ModuleId} {seed : Message}
    {publication : Publication} (member : publication ∈ (bus.publish sender seed).publications) :
    ∃ depth, depth ≤ bus.hopLimit.toNat ∧ publication.hop.toNat = depth ∧
      (publication.sender, publication.message) ∈ bus.level sender seed depth := by
  rw [publish_publications, List.mem_map] at member
  obtain ⟨⟨pending, index⟩, member, rfl⟩ := member
  obtain ⟨depth, bound, hop, found⟩ := mem_served_iff.mp (List.fst_mem_of_mem_zipIdx member)
  refine ⟨depth, bound, ?_, found⟩
  have size := Nat.lt_of_le_of_lt bound bus.hopLimit.toNat_lt_size
  rw [publication, hop, UInt32.toNat_ofNat_of_lt' size]

theorem exists_publication_of_mem_level {bus : Bus} {sender : ModuleId} {seed : Message}
    {depth : Nat} (bound : depth ≤ bus.hopLimit.toNat) {entry : ModuleId × Message}
    (member : entry ∈ bus.level sender seed depth) :
    ∃ publication, publication ∈ (bus.publish sender seed).publications ∧
      publication.hop.toNat = depth ∧ publication.sender = entry.1 ∧
      publication.message = entry.2 := by
  have found : (⟨entry.1, entry.2, UInt32.ofNat depth⟩ : Pending) ∈ bus.served sender seed :=
    mem_served_iff.mpr ⟨depth, bound, rfl, member⟩
  obtain ⟨index, inside, place⟩ := List.getElem_of_mem found
  have size := Nat.lt_of_le_of_lt bound bus.hopLimit.toNat_lt_size
  refine ⟨bus.publication index ⟨entry.1, entry.2, UInt32.ofNat depth⟩, ?_,
    UInt32.toNat_ofNat_of_lt' size, rfl, rfl⟩
  rw [publish_publications, List.mem_map]
  refine ⟨(_, index), List.mem_zipIdx_iff_getElem?.mpr ?_, rfl⟩
  rw [List.getElem?_eq_getElem inside, place]

/-! ## The highest hop -/

/-- The highest hop lies above every empty level. -/
theorem publish_maxHop_le {bus : Bus} {sender : ModuleId} {seed : Message} {depth : Nat}
    (empty : bus.level sender seed (depth + 1) = []) :
    (bus.publish sender seed).maxHop.toNat ≤ depth := by
  rw [Cascade.maxHop_le_iff]
  intro publication member
  obtain ⟨found, _, hop, entry⟩ := exists_level_of_mem_publications member
  by_contra deeper
  rw [level_eq_nil_of_le (by omega) empty] at entry
  exact List.not_mem_nil entry

theorem publish_maxHop_le_hopLimit (bus : Bus) (sender : ModuleId) (seed : Message) :
    (bus.publish sender seed).maxHop.toNat ≤ bus.hopLimit.toNat := by
  rw [Cascade.maxHop_le_iff]
  intro publication member
  obtain ⟨depth, bound, hop, _⟩ := exists_level_of_mem_publications member
  omega

/-- The highest hop reaches every level within the limit that is not empty. -/
theorem le_publish_maxHop {bus : Bus} {sender : ModuleId} {seed : Message} {depth : Nat}
    (bound : depth ≤ bus.hopLimit.toNat) (inhabited : bus.level sender seed depth ≠ []) :
    depth ≤ (bus.publish sender seed).maxHop.toNat := by
  obtain ⟨entry, member⟩ := List.exists_mem_of_ne_nil _ inhabited
  obtain ⟨publication, published, hop, _⟩ := exists_publication_of_mem_level bound member
  have := Cascade.hop_le_maxHop published
  omega

end Bus

end GatewaySim
