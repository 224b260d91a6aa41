import GatewaySim.Bus.Dispatch

/-! # The levels of a cascade

A seed spans a tree: the children of a message are what the other modules republish on receiving
it, and level `k` holds what lies `k` derivations below the seed. The queue never holds anything
else. Serving a stretch of it leaves behind what the stretch derives (`dispatch_append`), so the
entries are served level by level down to the hop limit, where nothing joins (`publish_events`).
-/

namespace GatewaySim.Bus

/-! ## The derivation tree -/

/-- What the modules make of a message from `sender`: module by module in registration order,
except the sender's own, and rule by rule the messages that are republished. -/
def children (bus : Bus) (sender : ModuleId) (message : Message) : List (ModuleId × Message) :=
  bus.modules.zipIdx.flatMap fun (module, id) =>
    if id = sender then []
    else (module.receive message).filterMap fun reaction =>
      reaction.republish.map fun derived => (id, derived)

/-- What lies the given number of derivations below a seed, with its senders. -/
def level (bus : Bus) (sender : ModuleId) (seed : Message) : Nat → List (ModuleId × Message)
  | 0 => [(sender, seed)]
  | depth + 1 => (bus.level sender seed depth).flatMap fun entry => bus.children entry.1 entry.2

@[simp] theorem level_zero (bus : Bus) (sender : ModuleId) (seed : Message) :
    bus.level sender seed 0 = [(sender, seed)] := rfl

theorem level_succ (bus : Bus) (sender : ModuleId) (seed : Message) (depth : Nat) :
    bus.level sender seed (depth + 1) =
      (bus.level sender seed depth).flatMap fun entry => bus.children entry.1 entry.2 := rfl

/-- The tree does not depend on the hop limit. -/
theorem children_congr {bus other : Bus} (same : bus.modules = other.modules) (sender : ModuleId)
    (message : Message) : bus.children sender message = other.children sender message := by
  simp only [children, same]

theorem level_congr {bus other : Bus} (same : bus.modules = other.modules) (sender : ModuleId)
    (seed : Message) (depth : Nat) :
    bus.level sender seed depth = other.level sender seed depth := by
  induction depth with
  | zero => rfl
  | succ depth ih => simp only [level_succ, ih, children_congr same]

theorem mem_children_iff {bus : Bus} {sender id : ModuleId} {message derived : Message} :
    (id, derived) ∈ bus.children sender message ↔
      id ≠ sender ∧ ∃ module, bus.modules[id]? = some module ∧
        ∃ reaction ∈ module.receive message, reaction.republish = some derived := by
  simp only [children, List.mem_flatMap, Prod.exists, List.mem_zipIdx_iff_getElem?]
  constructor
  · rintro ⟨module, place, found, member⟩
    split at member
    · simp at member
    next other =>
      simp only [List.mem_filterMap, Option.map_eq_some_iff, Prod.mk.injEq] at member
      obtain ⟨reaction, reacts, _, republished, rfl, rfl⟩ := member
      exact ⟨other, module, found, reaction, reacts, republished⟩
  · rintro ⟨other, module, found, reaction, reacts, republished⟩
    refine ⟨module, id, found, ?_⟩
    rw [if_neg other, List.mem_filterMap]
    exact ⟨reaction, reacts, by rw [republished]; rfl⟩

theorem mem_level_succ {bus : Bus} {sender parent id : ModuleId} {seed message derived : Message}
    {depth : Nat} (above : (parent, message) ∈ bus.level sender seed depth)
    (child : (id, derived) ∈ bus.children parent message) :
    (id, derived) ∈ bus.level sender seed (depth + 1) :=
  List.mem_flatMap.mpr ⟨(parent, message), above, child⟩

/-- Levels end: below an empty level there is nothing. -/
theorem level_eq_nil_of_le {bus : Bus} {sender : ModuleId} {seed : Message} {depth deeper : Nat}
    (le : depth ≤ deeper) (empty : bus.level sender seed depth = []) :
    bus.level sender seed deeper = [] := by
  induction le with
  | refl => exact empty
  | step _ ih => simp [level_succ, ih]

/-- As long as some child keeps a property, every level has an entry with it. -/
theorem exists_mem_level_of_invariant {bus : Bus} {invariant : ModuleId → Message → Prop}
    (step : ∀ sender message, invariant sender message →
      ∃ id derived, (id, derived) ∈ bus.children sender message ∧ invariant id derived)
    (sender : ModuleId) (seed : Message) (start : invariant sender seed) (depth : Nat) :
    ∃ id message, (id, message) ∈ bus.level sender seed depth ∧ invariant id message := by
  induction depth with
  | zero => exact ⟨sender, seed, List.mem_singleton_self _, start⟩
  | succ depth ih =>
    obtain ⟨parent, message, above, kept⟩ := ih
    obtain ⟨id, derived, child, still⟩ := step parent message kept
    exact ⟨id, derived, mem_level_succ above child, still⟩

def echoes (limit : UInt32) : Bus where
  modules := ["a", "b", "c"].map fun name => { name, receive := fun m => [.derive "echo" m] }
  hopLimit := limit

/-! ## The queue holds levels -/

def waiting (bus : Bus) (sender : ModuleId) (seed : Message) (depth : Nat) : List Pending :=
  (bus.level sender seed depth).map fun entry => ⟨entry.1, entry.2, UInt32.ofNat depth⟩

theorem children_eq_responses (bus : Bus) (sender : ModuleId) (message : Message) :
    bus.children sender message =
      (bus.responses sender message).filterMap fun response =>
        response.reaction.republish.map fun derived => (response.id, derived) := by
  rw [responses, List.filterMap_flatMap]
  apply congrArg (List.flatMap · bus.modules.zipIdx)
  funext ⟨module, id⟩
  dsimp only
  split
  · rfl
  · rw [List.filterMap_map]
    rfl

theorem derived_of_lt {bus : Bus} {pending : Pending} (below : pending.hop < bus.hopLimit) :
    bus.derived pending =
      (bus.children pending.sender pending.message).map fun entry =>
        ⟨entry.1, entry.2, pending.hop + 1⟩ := by
  rw [derived, if_pos below, children_eq_responses, List.map_filterMap]
  apply congrArg (List.filterMap · _)
  funext response
  rw [Option.map_map]
  rfl

theorem derived_of_not_lt {bus : Bus} {pending : Pending} (limit : ¬ pending.hop < bus.hopLimit) :
    bus.derived pending = [] := by
  rw [derived, if_neg limit]

/-- Below the greatest hop, the next hop is the successor. -/
theorem toNat_hop_add_one {hop : UInt32} (below : hop.toNat < UInt32.size - 1) :
    (hop + 1).toNat = hop.toNat + 1 := by
  rw [UInt32.toNat_add]
  exact Nat.mod_eq_of_lt (Nat.add_lt_of_lt_sub below)

theorem toNat_hop_add_one_of_lt {hop limit : UInt32} (below : hop < limit) :
    (hop + 1).toNat = hop.toNat + 1 :=
  toNat_hop_add_one (Nat.lt_of_lt_of_le below (Nat.le_sub_one_of_lt limit.toNat_lt_size))

theorem ofNat_lt_hopLimit {bus : Bus} {depth : Nat} (below : depth < bus.hopLimit.toNat) :
    UInt32.ofNat depth < bus.hopLimit := by
  have bound := Nat.lt_trans below bus.hopLimit.toNat_lt_size
  rw [UInt32.lt_iff_toNat_lt, UInt32.toNat_ofNat_of_lt' bound]
  exact below

theorem flatMap_derived_waiting {bus : Bus} {depth : Nat} (below : depth < bus.hopLimit.toNat)
    (sender : ModuleId) (seed : Message) :
    (bus.waiting sender seed depth).flatMap bus.derived = bus.waiting sender seed (depth + 1) := by
  rw [waiting, waiting, level_succ, List.flatMap_map, List.map_flatMap]
  apply congrArg (List.flatMap · _)
  funext entry
  rw [derived_of_lt (ofNat_lt_hopLimit below), UInt32.ofNat_add]
  rfl

theorem flatMap_derived_waiting_hopLimit (bus : Bus) (sender : ModuleId) (seed : Message) :
    (bus.waiting sender seed bus.hopLimit.toNat).flatMap bus.derived = [] := by
  rw [List.flatMap_eq_nil_iff]
  intro pending member
  obtain ⟨entry, _, rfl⟩ := List.mem_map.mp member
  apply derived_of_not_lt
  simp

/-! ## Serving a stretch of the queue -/

def segments (bus : Bus) (index : Nat) (queue : List Pending) : List Event :=
  (queue.zipIdx index).flatMap fun entry => bus.segment entry.2 entry.1

@[simp] theorem segments_nil (bus : Bus) (index : Nat) : bus.segments index [] = [] := rfl

theorem segments_cons (bus : Bus) (index : Nat) (pending : Pending) (rest : List Pending) :
    bus.segments index (pending :: rest) =
      bus.segment index pending ++ bus.segments (index + 1) rest := rfl

theorem segments_append (bus : Bus) (index : Nat) (front back : List Pending) :
    bus.segments index (front ++ back) =
      bus.segments index front ++ bus.segments (index + front.length) back := by
  rw [segments, List.zipIdx_append, List.flatMap_append]
  rfl

/-- Whatever waits behind a stretch of the queue, what the stretch derives joins behind that. -/
theorem dispatch_append (bus : Bus) (index : Nat) (front back : List Pending) :
    bus.dispatch index (front ++ back) =
      bus.segments index front ++
        bus.dispatch (index + front.length) (back ++ front.flatMap bus.derived) := by
  induction front generalizing index back with
  | nil => simp
  | cons pending rest ih =>
    have hindex : index + 1 + rest.length = index + (rest.length + 1) := by omega
    calc bus.dispatch index (pending :: (rest ++ back))
      _ = bus.segment index pending ++
            bus.dispatch (index + 1) (rest ++ (back ++ bus.derived pending)) := by
        rw [dispatch_cons, List.append_assoc]
      _ = _ := by
        rw [ih, segments_cons, List.length_cons, List.flatMap_cons, hindex, List.append_assoc,
          List.append_assoc]

/-- The entries that are served when a seed is published, in order: the levels down to the hop
limit. -/
def served (bus : Bus) (sender : ModuleId) (seed : Message) : List Pending :=
  (List.range (bus.hopLimit.toNat + 1)).flatMap (bus.waiting sender seed)

/-- Once all levels above `depth` are served, the queue holds that level and nothing else. -/
theorem publish_events_of_le (bus : Bus) (sender : ModuleId) (seed : Message) {depth : Nat}
    (le : depth ≤ bus.hopLimit.toNat) :
    (bus.publish sender seed).events =
      bus.segments 0 ((List.range depth).flatMap (bus.waiting sender seed)) ++
        bus.dispatch ((List.range depth).flatMap (bus.waiting sender seed)).length
          (bus.waiting sender seed depth) := by
  induction depth with
  | zero => rfl
  | succ depth ih =>
    have step := bus.dispatch_append
      ((List.range depth).flatMap (bus.waiting sender seed)).length
      (bus.waiting sender seed depth) []
    rw [List.append_nil, List.nil_append, flatMap_derived_waiting (by omega)] at step
    rw [ih (by omega), step, List.range_succ, List.flatMap_append, segments_append,
      List.flatMap_singleton, List.length_append, Nat.zero_add, List.append_assoc]

/-- A cascade serves the levels of its seed one after the other, down to the hop limit. -/
theorem publish_events (bus : Bus) (sender : ModuleId) (seed : Message) :
    (bus.publish sender seed).events = bus.segments 0 (bus.served sender seed) := by
  have last := bus.dispatch_append
    ((List.range bus.hopLimit.toNat).flatMap (bus.waiting sender seed)).length
    (bus.waiting sender seed bus.hopLimit.toNat) []
  rw [List.append_nil, List.nil_append, flatMap_derived_waiting_hopLimit, dispatch_nil,
    List.append_nil] at last
  rw [publish_events_of_le bus sender seed (Nat.le_refl _), last, served, List.range_succ,
    List.flatMap_append, segments_append, List.flatMap_singleton, Nat.zero_add]

end GatewaySim.Bus
