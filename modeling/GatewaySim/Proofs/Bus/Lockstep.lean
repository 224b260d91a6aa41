import GatewaySim.Bus.Dispatch
import Mathlib.Data.List.Forall2

/-! # Cascades in lockstep

What the modules cannot tell apart, the bus does not tell apart either. If every module answers
related messages by the same rules and with related messages, then related seeds lead to cascades
that agree event by event in everything but their messages, and these are related again
(`publish_related`).
-/

namespace GatewaySim

variable {R : Message → Message → Prop}

/-- Reactions by the same rule that republish related messages, or nothing. -/
structure Reaction.Related (R : Message → Message → Prop) (a b : Reaction) : Prop where
  rule : a.rule = b.rule
  republish : Option.Rel R a.republish b.republish

/-- Events of one kind that agree in everything but their messages, which are related. -/
inductive Event.Related (R : Message → Message → Prop) : Event → Event → Prop where
  | published {p q : Publication} (index : p.index = q.index) (hop : p.hop = q.hop)
      (sender : p.sender = q.sender) (senderName : p.senderName = q.senderName)
      (message : R p.message q.message) : Related R (.published p) (.published q)
  | received {p q : Receipt} (publication : p.publication = q.publication) (hop : p.hop = q.hop)
      (receiver : p.receiver = q.receiver) (receiverName : p.receiverName = q.receiverName)
      (rule : p.rule = q.rule) (message : R p.message q.message) :
      Related R (.received p) (.received q)
  | rejected {p q : Rejection} (hop : p.hop = q.hop) (limit : p.limit = q.limit)
      (sender : p.sender = q.sender) (senderName : p.senderName = q.senderName)
      (message : R p.message q.message) : Related R (.rejected p) (.rejected q)

def Module.Respects (R : Message → Message → Prop) (module : Module) : Prop :=
  ∀ a b, R a b →
    List.Forall₂ (Reaction.Related R) (module.receive a) (module.receive b)

/-- Entries of the queue that differ at most in their messages, which are related. -/
structure Pending.Related (R : Message → Message → Prop) (a b : Pending) : Prop where
  sender : a.sender = b.sender
  hop : a.hop = b.hop
  message : R a.message b.message

namespace Bus

structure Response.Related (R : Message → Message → Prop) (a b : Response) : Prop where
  id : a.id = b.id
  name : a.name = b.name
  reaction : a.reaction.Related R b.reaction

def Respects (R : Message → Message → Prop) (bus : Bus) : Prop :=
  ∀ module, module ∈ bus.modules → module.Respects R

variable {bus : Bus} {pending other : Pending}

theorem responses_related (respects : bus.Respects R) (sender : ModuleId) {a b : Message}
    (related : R a b) :
    List.Forall₂ (Response.Related R) (bus.responses sender a) (bus.responses sender b) := by
  have registered : List.Forall₂ (fun x y => x = y ∧ x ∈ bus.modules.zipIdx) bus.modules.zipIdx
      bus.modules.zipIdx := List.forall₂_same.mpr fun _ member => ⟨rfl, member⟩
  refine List.rel_flatMap registered ?_
  rintro ⟨module, id⟩ _ ⟨rfl, member⟩
  by_cases own : id = sender
  · simp [own]
  · have answers := respects module (List.fst_mem_of_mem_zipIdx member) a b related
    simp only [own, if_false, List.forall₂_map_left_iff, List.forall₂_map_right_iff]
    exact answers.imp fun _ _ reaction => ⟨rfl, rfl, reaction⟩

theorem derived_related (respects : bus.Respects R) (related : pending.Related R other) :
    List.Forall₂ (Pending.Related R) (bus.derived pending) (bus.derived other) := by
  obtain ⟨sender, message, hop⟩ := pending
  obtain ⟨rfl, rfl, seeds⟩ := related
  unfold derived
  by_cases below : other.hop < bus.hopLimit
  · simp only [below, if_true]
    refine List.rel_filterMap ?_ (responses_related respects _ seeds)
    rintro ⟨_, _, _, republished⟩ ⟨_, _, _, republishedToo⟩ ⟨rfl, rfl, _, derived⟩
    cases derived with
    | none => exact .none
    | some messages => exact .some ⟨rfl, rfl, messages⟩
  · simp [below]

theorem responseEvents_related (index : Nat) (related : pending.Related R other)
    {response answer : Response} (alike : response.Related R answer) :
    List.Forall₂ (Event.Related R) (bus.responseEvents index pending response)
      (bus.responseEvents index other answer) := by
  obtain ⟨sender, message, hop⟩ := pending
  obtain ⟨rfl, rfl, seeds⟩ := related
  obtain ⟨id, name, rule, republished⟩ := response
  obtain ⟨_, _, _, republishedToo⟩ := answer
  obtain ⟨rfl, rfl, rfl, derived⟩ := alike
  unfold responseEvents
  cases derived with
  | none => exact .cons (.received rfl rfl rfl rfl rfl seeds) .nil
  | some messages =>
    by_cases below : other.hop < bus.hopLimit
    · simp only [below, if_true]
      exact .cons (.received rfl rfl rfl rfl rfl seeds) .nil
    · simp only [below, if_false]
      exact .cons (.received rfl rfl rfl rfl rfl seeds)
        (.cons (.rejected rfl rfl rfl rfl messages) .nil)

theorem segment_related (respects : bus.Respects R) (index : Nat)
    (related : pending.Related R other) :
    List.Forall₂ (Event.Related R) (bus.segment index pending) (bus.segment index other) := by
  have answers : List.Forall₂ (Response.Related R)
      (bus.responses pending.sender pending.message)
      (bus.responses other.sender other.message) := by
    rw [related.sender]
    exact responses_related respects _ related.message
  have name : bus.nameOf pending.sender = bus.nameOf other.sender := by rw [related.sender]
  exact .cons (.published rfl related.hop related.sender name related.message)
    (List.rel_flatMap answers fun _ _ alike => responseEvents_related index related alike)

/-- Queues whose entries are related in pairs are served in lockstep. -/
theorem dispatch_related (respects : bus.Respects R) (index : Nat) (queue others : List Pending)
    (related : List.Forall₂ (Pending.Related R) queue others) :
    List.Forall₂ (Event.Related R) (bus.dispatch index queue) (bus.dispatch index others) := by
  induction index, queue using dispatch.induct bus generalizing others with
  | case1 index =>
    cases related
    simp
  | case2 index pending rest ih =>
    cases related with
    | cons first behind =>
      have next := ih _ (List.rel_append behind (derived_related respects first))
      rw [dispatch_cons, dispatch_cons]
      exact List.rel_append (segment_related respects index first) next

/-- Related seeds lead to cascades that agree event by event. -/
theorem publish_related (respects : bus.Respects R) (sender : ModuleId) {a b : Message}
    (related : R a b) :
    List.Forall₂ (Event.Related R) (bus.publish sender a).events (bus.publish sender b).events :=
  dispatch_related respects 0 _ _ (.cons ⟨rfl, rfl, related⟩ .nil)

end Bus

end GatewaySim
