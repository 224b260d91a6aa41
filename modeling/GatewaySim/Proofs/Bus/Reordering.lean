import GatewaySim.Proofs.Bus.DepthFirst
import Mathlib.Data.List.FinRange

/-! # Cascades and registration order

A bus asks its modules in registration order, and that order also gives them their identities. A bus
with the same modules in another order walks the same tree in another order: up to the new
identities, every message is published, received and rejected as often as before
(`publish_reordered`).
-/

namespace GatewaySim

open scoped List

def Event.renumbered (rename : ModuleId → ModuleId) : Event → Event
  | .published p => .published { p with sender := rename p.sender }
  | .received r => .received { r with receiver := rename r.receiver }
  | .rejected r => .rejected { r with sender := rename r.sender }

def Pending.renumbered (rename : ModuleId → ModuleId) (pending : Pending) : Pending :=
  { pending with sender := rename pending.sender }

def Bus.Response.renumbered (rename : ModuleId → ModuleId) (response : Response) : Response :=
  { response with id := rename response.id }

theorem Event.unnumbered_renumbered (rename : ModuleId → ModuleId) (event : Event) :
    (event.renumbered rename).unnumbered = event.unnumbered.renumbered rename := by
  cases event <;> rfl

theorem Event.foldl_count_renumbered (rename : ModuleId → ModuleId) (events : List Event) :
    (events.map (renumbered rename)).foldl Statistics.count {} =
      events.foldl Statistics.count {} := by
  rw [List.foldl_map]
  congr 1
  funext statistics event
  refine Statistics.count_congr ?_ ?_ statistics
  · cases event <;> rfl
  · cases event <;> exact fun _ => rfl

namespace Bus

/-! ## The modules in another order -/

/-- A bus with the same modules, of which the one at place `i` now stands at place `order i`. -/
def reordered (bus : Bus) (order : Equiv.Perm (Fin bus.modules.length)) : Bus where
  modules := (List.finRange bus.modules.length).map fun place => bus.modules[order.symm place]
  hopLimit := bus.hopLimit

/-- The identity of a module after reordering. Identities that are not registered stay. -/
def renumber {count : Nat} (order : Equiv.Perm (Fin count)) (id : ModuleId) : ModuleId :=
  if inside : id < count then order ⟨id, inside⟩ else id

theorem renumber_injective {count : Nat} (order : Equiv.Perm (Fin count)) :
    Function.Injective (renumber order) := by
  intro a b same
  unfold renumber at same
  by_cases left : a < count <;> by_cases right : b < count
  · simp only [left, right, dif_pos] at same
    exact Fin.mk.inj_iff.mp (order.injective (Fin.ext same))
  · simp only [left, right, dif_pos, dif_neg, not_false_iff] at same
    exact absurd (same ▸ (order ⟨a, left⟩).isLt) right
  · simp only [left, right, dif_pos, dif_neg, not_false_iff] at same
    exact absurd (same ▸ (order ⟨b, right⟩).isLt) left
  · simpa only [left, right, dif_neg, not_false_iff] using same

variable {bus : Bus} (order : Equiv.Perm (Fin bus.modules.length))

theorem zipIdx_modules_reordered :
    (bus.reordered order).modules.zipIdx.Perm
      (bus.modules.zipIdx.map fun entry => (entry.1, renumber order entry.2)) := by
  have numbered : (bus.reordered order).modules.zipIdx =
      (List.finRange bus.modules.length).map fun place =>
        (bus.modules[order.symm place], place.val) := by
    apply List.ext_getElem <;> simp [reordered]
  have renamed : (bus.modules.zipIdx.map fun entry => (entry.1, renumber order entry.2)) =
      ((List.finRange bus.modules.length).map order).map fun place =>
        (bus.modules[order.symm place], place.val) := by
    apply List.ext_getElem <;> simp +contextual [renumber]
  rw [numbered, renamed]
  exact (order.map_finRange_perm.map _).symm

theorem nameOf_reordered (id : ModuleId) :
    (bus.reordered order).nameOf (renumber order id) = bus.nameOf id := by
  by_cases inside : id < bus.modules.length <;> simp [nameOf, renumber, reordered, inside]

theorem responses_reordered (sender : ModuleId) (message : Message) :
    ((bus.reordered order).responses (renumber order sender) message).Perm
      ((bus.responses sender message).map (Response.renumbered (renumber order))) := by
  unfold responses
  refine ((zipIdx_modules_reordered order).flatMap_right _).trans (.of_eq ?_)
  rw [List.flatMap_map, List.map_flatMap]
  apply List.flatMap_congr
  rintro ⟨module, id⟩ _
  by_cases own : id = sender
  · simp [own]
  · have other : renumber order id ≠ renumber order sender :=
      fun same => own (renumber_injective order same)
    simp [own, other, Response.renumbered]

/-- What is made of each response alike is made of all of them alike, in another order. -/
theorem flatMap_responses_reordered {β γ : Type} {f : Response → List β} {g : Response → List γ}
    {view : β → γ}
    (same : ∀ response, g (response.renumbered (renumber order)) = (f response).map view)
    (sender : ModuleId) (message : Message) :
    (((bus.reordered order).responses (renumber order sender) message).flatMap g).Perm
      (((bus.responses sender message).flatMap f).map view) := by
  refine ((responses_reordered order sender message).flatMap_right g).trans (.of_eq ?_)
  simp only [List.flatMap_map, List.map_flatMap, same]

/-! ## The tree in another order -/

theorem joining_reordered (pending : Pending) (response : Response) :
    (bus.reordered order).joining (pending.renumbered (renumber order))
        (response.renumbered (renumber order)) =
      (bus.joining pending response).map (Pending.renumbered (renumber order)) := by
  unfold joining
  dsimp only [Response.renumbered]
  by_cases below : pending.hop < bus.hopLimit <;> cases response.reaction.republish <;>
    simp [below, reordered, Pending.renumbered]

theorem responseEvents_reordered (index : Nat) (pending : Pending) (response : Response) :
    (bus.reordered order).responseEvents index (pending.renumbered (renumber order))
        (response.renumbered (renumber order)) =
      (bus.responseEvents index pending response).map (Event.renumbered (renumber order)) := by
  unfold responseEvents
  dsimp only [Response.renumbered]
  cases response.reaction.republish with
  | none => rfl
  | some message =>
    by_cases below : pending.hop < bus.hopLimit <;>
      simp [below, reordered, Pending.renumbered, Event.renumbered]

theorem derived_reordered (pending : Pending) :
    ((bus.reordered order).derived (pending.renumbered (renumber order))).Perm
      ((bus.derived pending).map (Pending.renumbered (renumber order))) := by
  rw [derived_eq_flatMap, derived_eq_flatMap]
  exact flatMap_responses_reordered order (joining_reordered order pending) pending.sender
    pending.message

theorem segment_reordered (index : Nat) (pending : Pending) :
    ((bus.reordered order).segment index (pending.renumbered (renumber order))).Perm
      ((bus.segment index pending).map (Event.renumbered (renumber order))) := by
  have name := nameOf_reordered order pending.sender
  have responded := flatMap_responses_reordered order (responseEvents_reordered order index pending)
    pending.sender pending.message
  simp only [segment, List.map_cons, Event.renumbered, Pending.renumbered, name]
  exact responded.cons _

theorem map_unnumbered_renumbered (rename : ModuleId → ModuleId) (events : List Event) :
    (events.map (Event.renumbered rename)).map Event.unnumbered =
      (events.map Event.unnumbered).map (Event.renumbered rename) := by
  simp only [List.map_map, Function.comp_def, Event.unnumbered_renumbered]

/-- A message leads to the same events, with everything that is derived from it. -/
theorem descent_reordered (pending : Pending) :
    ((bus.reordered order).descent (pending.renumbered (renumber order))).Perm
      ((bus.descent pending).map (Event.renumbered (renumber order))) := by
  generalize hroom : bus.room pending = room
  induction room using Nat.strong_induction_on generalizing pending with
  | _ room ih =>
    have first := (segment_reordered order 0 pending).map Event.unnumbered
    rw [map_unnumbered_renumbered] at first
    have behind : (((bus.reordered order).derived (pending.renumbered (renumber order))).flatMap
          (bus.reordered order).descent).Perm
        (((bus.derived pending).flatMap bus.descent).map (Event.renumbered (renumber order))) := by
      refine ((derived_reordered order pending).flatMap_right _).trans ?_
      rw [List.flatMap_map, List.map_flatMap]
      refine List.Perm.flatMap_left _ fun next member => ?_
      exact ih _ (hroom ▸ room_lt_of_mem_derived member) next rfl
    calc (bus.reordered order).descent (pending.renumbered (renumber order))
      _ ~ _ := descent_perm _ 0 _
      _ ~ _ := first.append behind
      _ = _ := (List.map_append ..).symm
      _ ~ _ := ((descent_perm bus 0 pending).map _).symm

/-! ## The cascades -/

theorem publish_reordered_sameEvents (sender : ModuleId) (seed : Message) :
    SameEvents ((bus.publish sender seed).events.map (Event.renumbered (renumber order)))
      ((bus.reordered order).publish (renumber order sender) seed).events := by
  have before := dispatch_perm bus 0 [⟨sender, seed, 0⟩]
  have after := dispatch_perm (bus.reordered order) 0 [⟨renumber order sender, seed, 0⟩]
  rw [List.flatMap_singleton] at before after
  rw [SameEvents, map_unnumbered_renumbered]
  exact (before.map _).trans ((descent_reordered order ⟨sender, seed, 0⟩).symm.trans after.symm)

/-- A view of events shows the same on both sides if it undoes the new identities. -/
theorem filterMap_of_renumbered {α : Type} {rename : ModuleId → ModuleId}
    {events others : List Event} (same : SameEvents (events.map (Event.renumbered rename)) others)
    {view shown : Event → Option α} (stable : ∀ event, shown event.unnumbered = shown event)
    (renamed : ∀ event, shown (event.renumbered rename) = view event) :
    (events.filterMap view).Perm (others.filterMap shown) := by
  have perm := same.filterMap stable
  rw [List.filterMap_map] at perm
  rwa [show shown ∘ Event.renumbered rename = view from funext renamed] at perm

/-- Up to the identities of the modules, reordering the modules changes the order of a cascade and
nothing else: publications, receipts and rejections are as many as before, and so are the highest
hop, completeness and the counts for each name. -/
theorem publish_reordered (bus : Bus) (order : Equiv.Perm (Fin bus.modules.length))
    (sender : ModuleId) (seed : Message) :
    let rename := renumber order
    let cascade := bus.publish sender seed
    let other := (bus.reordered order).publish (rename sender) seed
    (cascade.publications.map fun p => (p.hop, rename p.sender, p.senderName, p.message)).Perm
        (other.publications.map fun p => (p.hop, p.sender, p.senderName, p.message)) ∧
      (cascade.receipts.map fun r =>
          (r.hop, rename r.receiver, r.receiverName, r.rule, r.message)).Perm
        (other.receipts.map fun r => (r.hop, r.receiver, r.receiverName, r.rule, r.message)) ∧
      (cascade.rejections.map fun r => { r with sender := rename r.sender }).Perm
        other.rejections ∧
      cascade.maxHop = other.maxHop ∧
      cascade.isComplete = other.isComplete ∧
      cascade.events.foldl Statistics.count {} = other.events.foldl Statistics.count {} := by
  intro rename cascade other
  have same : SameEvents (cascade.events.map (Event.renumbered rename)) other.events :=
    publish_reordered_sameEvents order sender seed
  have publications :
      (cascade.publications.map fun p => (p.hop, rename p.sender, p.senderName, p.message)).Perm
        (other.publications.map fun p => (p.hop, p.sender, p.senderName, p.message)) := by
    rw [Cascade.publications, Cascade.publications, List.map_filterMap, List.map_filterMap]
    exact filterMap_of_renumbered same (fun event => by cases event <;> rfl)
      (fun event => by cases event <;> rfl)
  have receipts :
      (cascade.receipts.map fun r =>
          (r.hop, rename r.receiver, r.receiverName, r.rule, r.message)).Perm
        (other.receipts.map fun r => (r.hop, r.receiver, r.receiverName, r.rule, r.message)) := by
    rw [Cascade.receipts, Cascade.receipts, List.map_filterMap, List.map_filterMap]
    exact filterMap_of_renumbered same (fun event => by cases event <;> rfl)
      (fun event => by cases event <;> rfl)
  have rejections :
      (cascade.rejections.map fun r => { r with sender := rename r.sender }).Perm
        other.rejections := by
    rw [Cascade.rejections, Cascade.rejections, List.map_filterMap]
    exact filterMap_of_renumbered same (fun event => by cases event <;> rfl)
      (fun event => by cases event <;> rfl)
  refine ⟨publications, receipts, rejections, ?_, ?_, ?_⟩
  · have hops : (cascade.publications.map Publication.hop).Perm
        (other.publications.map Publication.hop) := by
      simpa only [List.map_map, Function.comp_def] using publications.map Prod.fst
    exact Cascade.maxHop_eq_of_perm hops
  · rw [Cascade.isComplete, Cascade.isComplete, ← rejections.isEmpty_eq, List.isEmpty_map]
  · rw [← same.foldl_count, Event.foldl_count_renumbered]

end Bus

end GatewaySim
