import GatewaySim.Proofs.Bus.Segments
import GatewaySim.Proofs.Report.Counting
import Mathlib.Data.List.Perm.Basic

/-! # Breadth first and depth first

A dispatcher without a queue follows each derived message to its end before it turns to the next
reaction. It walks the same tree: apart from the order, and from the numbers that publications get
from it, its trace and the cascade hold the same events, each as often (`publish_perm_depthFirst`).
-/

namespace GatewaySim

def Event.unnumbered : Event → Event
  | .published publication => .published { publication with index := 0 }
  | .received receipt => .received { receipt with publication := 0 }
  | .rejected rejection => .rejected rejection

namespace Bus

open scoped List

/-! ## The depth-first dispatcher -/

theorem room_child_lt {bus : Bus} {pending : Pending} (below : pending.hop < bus.hopLimit)
    (id : ModuleId) (message : Message) :
    bus.room ⟨id, message, pending.hop + 1⟩ < bus.room pending := by
  have lt := UInt32.lt_iff_toNat_lt.mp below
  simp only [room, toNat_hop_add_one_of_lt below]
  omega

/-- Publishes a message as number `index`. Every reaction of every other module is reported, and
what it republishes is at once published in turn, or rejected at the hop limit, before the next
reaction is looked at. -/
def depthFirst (bus : Bus) (index : Nat) (pending : Pending) : List Event :=
  bus.modules.zipIdx.foldl (fun trace (module, id) =>
      if id = pending.sender then trace
      else (module.receive pending.message).foldl (fun trace reaction =>
        trace ++ .received
          { publication := index
            hop := pending.hop
            receiver := id
            receiverName := module.name
            rule := reaction.rule
            message := pending.message } ::
          match reaction.republish with
          | none => []
          | some message =>
            if below : pending.hop < bus.hopLimit then
              bus.depthFirst (index + (trace.filterMap Event.publication?).length)
                ⟨id, message, pending.hop + 1⟩
            else
              [.rejected
                { hop := pending.hop + 1
                  limit := bus.hopLimit
                  sender := id
                  senderName := module.name
                  message := message }]) trace)
    [.published
      { index := index
        hop := pending.hop
        sender := pending.sender
        senderName := bus.nameOf pending.sender
        message := pending.message }]
termination_by bus.room pending
decreasing_by exact room_child_lt below id message

/-! ## Traces without numbers -/

def descent (bus : Bus) (pending : Pending) : List Event :=
  (bus.depthFirst 0 pending).map Event.unnumbered

def follow (bus : Bus) (index : Nat) (pending : Pending) (trace : List Event)
    (response : Response) : List Event :=
  .received
    { publication := index
      hop := pending.hop
      receiver := response.id
      receiverName := response.name
      rule := response.reaction.rule
      message := pending.message } ::
    match response.reaction.republish with
    | none => []
    | some message =>
      if pending.hop < bus.hopLimit then
        bus.depthFirst (index + (trace.filterMap Event.publication?).length)
          ⟨response.id, message, pending.hop + 1⟩
      else
        [.rejected
          { hop := pending.hop + 1
            limit := bus.hopLimit
            sender := response.id
            senderName := response.name
            message := message }]

/-- To look at the reactions module by module is to look at the responses. -/
theorem foldl_responses {β : Type} (bus : Bus) (sender : ModuleId) (message : Message)
    (step : β → Response → β) (start : β) :
    (bus.responses sender message).foldl step start =
      bus.modules.zipIdx.foldl (fun state entry =>
        if entry.2 = sender then state
        else (entry.1.receive message).foldl (fun state reaction =>
          step state ⟨entry.2, entry.1.name, reaction⟩) state) start := by
  rw [responses, List.foldl_flatMap]
  congr 1
  funext state entry
  dsimp only
  split
  · rfl
  · rw [List.foldl_map]

theorem depthFirst_eq (bus : Bus) (index : Nat) (pending : Pending) :
    bus.depthFirst index pending =
      (bus.responses pending.sender pending.message).foldl
        (fun trace response => trace ++ bus.follow index pending trace response)
        [.published (bus.publication index pending)] := by
  rw [depthFirst, foldl_responses]
  rfl

def branch (bus : Bus) (pending : Pending) (response : Response) : List Event :=
  (bus.follow 0 pending [] response).map Event.unnumbered

theorem map_foldl_append {α β γ : Type} {view : β → γ} {items : List α}
    {added : List β → α → List β} (shown : α → List γ) (start : List β)
    (same : ∀ trace item, item ∈ items → (added trace item).map view = shown item) :
    (items.foldl (fun trace item => trace ++ added trace item) start).map view =
      start.map view ++ items.flatMap shown := by
  induction items generalizing start with
  | nil => simp
  | cons item rest ih =>
    have head := same start item (List.mem_cons_self ..)
    have tail := fun trace other member => same trace other (List.mem_cons_of_mem item member)
    rw [List.foldl_cons, ih _ tail, List.map_append, head, List.flatMap_cons, List.append_assoc]

/-- The trace of a message, once the traces of its children do not depend on their numbers. -/
theorem depthFirst_unnumbered_step (bus : Bus) (pending : Pending)
    (children : ∀ id message index, pending.hop < bus.hopLimit →
      (bus.depthFirst index ⟨id, message, pending.hop + 1⟩).map Event.unnumbered =
        bus.descent ⟨id, message, pending.hop + 1⟩)
    (index : Nat) :
    (bus.depthFirst index pending).map Event.unnumbered =
      .published (bus.publication 0 pending) ::
        (bus.responses pending.sender pending.message).flatMap (bus.branch pending) := by
  rw [depthFirst_eq, map_foldl_append (bus.branch pending)]
  · rfl
  · intro trace response _
    simp only [branch, follow, List.map_cons]
    congr 1
    split
    · rfl
    next message _ =>
      split
      next below =>
        rw [children response.id message _ below, children response.id message _ below]
      next => rfl

theorem depthFirst_unnumbered (bus : Bus) (index : Nat) (pending : Pending) :
    (bus.depthFirst index pending).map Event.unnumbered = bus.descent pending := by
  generalize hroom : bus.room pending = room
  induction room using Nat.strong_induction_on generalizing index pending with
  | _ room ih =>
    have step := depthFirst_unnumbered_step bus pending fun id message index below =>
      ih _ (hroom ▸ room_child_lt below id message) index _ rfl
    rw [step index, descent, step 0]

theorem descent_eq (bus : Bus) (pending : Pending) :
    bus.descent pending =
      .published (bus.publication 0 pending) ::
        (bus.responses pending.sender pending.message).flatMap (bus.branch pending) :=
  depthFirst_unnumbered_step bus pending (fun id message index _ =>
    bus.depthFirst_unnumbered index ⟨id, message, pending.hop + 1⟩) 0

/-! ## The two orders -/

def joining (bus : Bus) (pending : Pending) (response : Response) : List Pending :=
  if pending.hop < bus.hopLimit then
    (response.reaction.republish.map fun message =>
      ⟨response.id, message, pending.hop + 1⟩).toList
  else []

theorem derived_eq_flatMap (bus : Bus) (pending : Pending) :
    bus.derived pending =
      (bus.responses pending.sender pending.message).flatMap (bus.joining pending) := by
  by_cases below : pending.hop < bus.hopLimit
  · rw [derived, if_pos below, List.filterMap_eq_flatMap_toList]
    exact List.flatMap_congr fun _ _ => (if_pos below).symm
  · rw [derived_of_not_lt below]
    exact (List.flatMap_eq_nil_iff.mpr fun _ _ => if_neg below).symm

/-- Depth first, a response is followed at once by what it adds to the queue breadth first. -/
theorem branch_eq (bus : Bus) (pending : Pending) (response : Response) :
    bus.branch pending response =
      (bus.responseEvents 0 pending response).map Event.unnumbered ++
        (bus.joining pending response).flatMap bus.descent := by
  unfold branch follow responseEvents joining
  cases response.reaction.republish with
  | none => by_cases below : pending.hop < bus.hopLimit <;> simp [below]
  | some message =>
    by_cases below : pending.hop < bus.hopLimit
    · simp [below, depthFirst_unnumbered]
    · simp [below]

theorem segment_unnumbered (bus : Bus) (index : Nat) (pending : Pending) :
    (bus.segment index pending).map Event.unnumbered =
      .published (bus.publication 0 pending) ::
        (bus.responses pending.sender pending.message).flatMap fun response =>
          (bus.responseEvents 0 pending response).map Event.unnumbered := by
  rw [segment, List.map_cons, List.map_flatMap]
  congr 1
  apply List.flatMap_congr
  intro response _
  unfold responseEvents
  dsimp only
  split
  · rfl
  · split <;> rfl

theorem descent_perm (bus : Bus) (index : Nat) (pending : Pending) :
    (bus.descent pending).Perm
      ((bus.segment index pending).map Event.unnumbered ++
        (bus.derived pending).flatMap bus.descent) := by
  rw [descent_eq, segment_unnumbered, derived_eq_flatMap, List.flatMap_assoc, List.cons_append,
    List.flatMap_congr fun response _ => bus.branch_eq pending response]
  exact (List.flatMap_append_perm _ _ _).symm.cons _

/-- Whatever waits in the queue, serving it shows what the entries lead to depth first. -/
theorem dispatch_perm (bus : Bus) (index : Nat) (queue : List Pending) :
    ((bus.dispatch index queue).map Event.unnumbered).Perm (queue.flatMap bus.descent) := by
  -- The queue grows while it is served, so the induction follows the calls of `dispatch`.
  induction index, queue using dispatch.induct bus with
  | case1 index => simp
  | case2 index pending rest ih =>
    rw [dispatch_cons, List.map_append, List.flatMap_cons]
    calc (bus.segment index pending).map Event.unnumbered ++
          (bus.dispatch (index + 1) (rest ++ bus.derived pending)).map Event.unnumbered
      _ ~ (bus.segment index pending).map Event.unnumbered ++
            (rest.flatMap bus.descent ++ (bus.derived pending).flatMap bus.descent) := by
        rw [← List.flatMap_append]
        exact ih.append_left _
      _ ~ (bus.segment index pending).map Event.unnumbered ++
            ((bus.derived pending).flatMap bus.descent ++ rest.flatMap bus.descent) :=
        List.perm_append_comm.append_left _
      _ = ((bus.segment index pending).map Event.unnumbered ++
            (bus.derived pending).flatMap bus.descent) ++ rest.flatMap bus.descent :=
        (List.append_assoc _ _ _).symm
      _ ~ bus.descent pending ++ rest.flatMap bus.descent :=
        (bus.descent_perm index pending).symm.append_right _

/-! ## What the orders have in common -/

/-- Events that are the same but for their numbers, in two orders. -/
def SameEvents (left right : List Event) : Prop :=
  (left.map Event.unnumbered).Perm (right.map Event.unnumbered)

/-- A view that does not look at the numbers shows the same, in some order. -/
theorem SameEvents.filterMap {α : Type} {left right : List Event} (same : SameEvents left right)
    {view : Event → Option α} (stable : ∀ event, view event.unnumbered = view event) :
    (left.filterMap view).Perm (right.filterMap view) := by
  have shown := List.Perm.filterMap view same
  rw [List.filterMap_map, List.filterMap_map] at shown
  rwa [show view ∘ Event.unnumbered = view from funext stable] at shown

theorem SameEvents.foldl_count {left right : List Event} (same : SameEvents left right) :
    left.foldl Statistics.count {} = right.foldl Statistics.count {} := by
  have stable : ∀ (statistics : Statistics) (event : Event),
      statistics.count event.unnumbered = statistics.count event := by
    intro statistics event
    refine Statistics.count_congr ?_ ?_ statistics
    · cases event <;> rfl
    · cases event <;> exact fun _ => rfl
  have counted := Statistics.foldl_count_perm same {}
  simpa only [List.foldl_map, stable] using counted

theorem publish_sameEvents (bus : Bus) (sender : ModuleId) (seed : Message) :
    SameEvents (bus.publish sender seed).events (bus.depthFirst 0 ⟨sender, seed, 0⟩) := by
  have perm := bus.dispatch_perm 0 [⟨sender, seed, 0⟩]
  rwa [List.flatMap_singleton] at perm

/-- Both orders show the same publications, receipts and rejections, and so the same counts for each
module, the same highest hop, and completeness of both or neither. -/
theorem publish_perm_depthFirst (bus : Bus) (sender : ModuleId) (seed : Message) :
    let cascade := bus.publish sender seed
    let trace : Cascade := ⟨bus.depthFirst 0 ⟨sender, seed, 0⟩⟩
    (cascade.publications.map fun p => (p.hop, p.sender, p.senderName, p.message)).Perm
        (trace.publications.map fun p => (p.hop, p.sender, p.senderName, p.message)) ∧
      (cascade.receipts.map fun r => (r.hop, r.receiver, r.receiverName, r.rule, r.message)).Perm
        (trace.receipts.map fun r => (r.hop, r.receiver, r.receiverName, r.rule, r.message)) ∧
      cascade.rejections.Perm trace.rejections ∧
      cascade.events.foldl Statistics.count {} = trace.events.foldl Statistics.count {} ∧
      cascade.maxHop = trace.maxHop ∧
      cascade.isComplete = trace.isComplete := by
  intro cascade trace
  have same : SameEvents cascade.events trace.events := bus.publish_sameEvents sender seed
  have publications :
      (cascade.publications.map fun p => (p.hop, p.sender, p.senderName, p.message)).Perm
        (trace.publications.map fun p => (p.hop, p.sender, p.senderName, p.message)) := by
    rw [Cascade.publications, Cascade.publications, List.map_filterMap, List.map_filterMap]
    exact same.filterMap fun event => by cases event <;> rfl
  have receipts :
      (cascade.receipts.map fun r => (r.hop, r.receiver, r.receiverName, r.rule, r.message)).Perm
        (trace.receipts.map fun r =>
          (r.hop, r.receiver, r.receiverName, r.rule, r.message)) := by
    rw [Cascade.receipts, Cascade.receipts, List.map_filterMap, List.map_filterMap]
    exact same.filterMap fun event => by cases event <;> rfl
  have rejections : cascade.rejections.Perm trace.rejections :=
    same.filterMap fun event => by cases event <;> rfl
  refine ⟨publications, receipts, rejections, same.foldl_count, ?_, ?_⟩
  · have hops : (cascade.publications.map Publication.hop).Perm
        (trace.publications.map Publication.hop) := by
      simpa only [List.map_map, Function.comp_def] using publications.map Prod.fst
    exact Cascade.maxHop_eq_of_perm hops
  · rw [Cascade.isComplete, Cascade.isComplete, rejections.isEmpty_eq]

end Bus

end GatewaySim
