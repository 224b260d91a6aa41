import GatewaySim.Bus.Event

/-! # The broadcast bus

A bus offers each published message to every registered module except its sender. Derived messages
wait in a first-in first-out queue and are published in turn, one hop further from the seed; a
message that would lie beyond the hop limit is rejected instead. Dispatching ends whatever the
modules do: the generations below a waiting message die out at the limit, so a queue has only so
many publications before it (`outstanding`), and serving its front makes them one fewer.
-/

namespace GatewaySim

/-- The modules on a bus, in registration order, and the highest hop of a derived message. -/
structure Bus where
  modules : List Module := []
  hopLimit : UInt32

structure Pending where
  sender : ModuleId
  message : Message
  hop : UInt32

namespace Bus

def defaultHopLimit : Int := 16

/-- Adds a module; its identity is the number of modules before it. -/
def register (bus : Bus) (module : Module) : ModuleId × Bus :=
  (bus.modules.length, { bus with modules := bus.modules ++ [module] })

/-- The name of a module; an identity that is not registered is named by its number. -/
def nameOf (bus : Bus) (id : ModuleId) : String :=
  match bus.modules[id]? with
  | some module => module.name
  | none => id.text

structure Response where
  id : ModuleId
  name : String
  reaction : Reaction

/-- The reactions to a message from `sender`: module by module in registration order, except the
sender's own, and rule by rule within a module. -/
def responses (bus : Bus) (sender : ModuleId) (message : Message) : List Response :=
  bus.modules.zipIdx.flatMap fun (module, id) =>
    if id = sender then []
    else (module.receive message).map fun reaction => ⟨id, module.name, reaction⟩

def room (bus : Bus) (pending : Pending) : Nat := bus.hopLimit.toNat - pending.hop.toNat

def derived (bus : Bus) (pending : Pending) : List Pending :=
  if pending.hop < bus.hopLimit then
    (bus.responses pending.sender pending.message).filterMap fun response =>
      response.reaction.republish.map fun message => ⟨response.id, message, pending.hop + 1⟩
  else []

/-- The events of one response to a publication: the receipt, and the rejection of the derived
message when the publication already lies at the limit. -/
def responseEvents (bus : Bus) (index : Nat) (pending : Pending) (response : Response) :
    List Event :=
  let receipt : Event := .received
    { publication := index
      hop := pending.hop
      receiver := response.id
      receiverName := response.name
      rule := response.reaction.rule
      message := pending.message }
  match response.reaction.republish with
  | none => [receipt]
  | some message =>
    if pending.hop < bus.hopLimit then [receipt]
    else [receipt, .rejected
      { hop := pending.hop + 1
        limit := bus.hopLimit
        sender := response.id
        senderName := response.name
        message := message }]

def segment (bus : Bus) (index : Nat) (pending : Pending) : List Event :=
  .published
    { index := index
      hop := pending.hop
      sender := pending.sender
      senderName := bus.nameOf pending.sender
      message := pending.message } ::
    (bus.responses pending.sender pending.message).flatMap (bus.responseEvents index pending)

theorem room_lt_of_mem_derived {bus : Bus} {pending next : Pending}
    (member : next ∈ bus.derived pending) : bus.room next < bus.room pending := by
  unfold derived at member
  split at member
  next below =>
    obtain ⟨response, _, found⟩ := List.mem_filterMap.mp member
    obtain ⟨message, _, rfl⟩ := Option.map_eq_some_iff.mp found
    have lt : pending.hop.toNat < bus.hopLimit.toNat := below
    have bound := bus.hopLimit.toNat_lt
    have one : (pending.hop + 1).toNat = pending.hop.toNat + 1 := by
      rw [UInt32.toNat_add]
      exact Nat.mod_eq_of_lt (by simp; omega)
    simp only [room, one]
    omega
  next => simp at member

theorem derived_eq_nil_of_room {bus : Bus} {pending : Pending} (full : bus.room pending = 0) :
    bus.derived pending = [] := by
  apply List.eq_nil_iff_forall_not_mem.mpr
  intro next member
  have less := room_lt_of_mem_derived member
  omega

/-- How many messages a queue and the given number of generations behind it hold. -/
def outlook (bus : Bus) : Nat → List Pending → Nat
  | 0, queue => queue.length
  | generations + 1, queue => queue.length + bus.outlook generations (queue.flatMap bus.derived)

theorem outlook_succ (bus : Bus) (generations : Nat) (queue : List Pending) :
    bus.outlook (generations + 1) queue =
      queue.length + bus.outlook generations (queue.flatMap bus.derived) :=
  rfl

theorem outlook_append (bus : Bus) (generations : Nat) (queue others : List Pending) :
    bus.outlook generations (queue ++ others) =
      bus.outlook generations queue + bus.outlook generations others := by
  induction generations generalizing queue others with
  | zero => exact List.length_append
  | succ generations ih =>
    simp only [outlook_succ, List.flatMap_append, List.length_append, ih]
    omega

/-- Generations that would lie beyond the limit hold nothing. -/
theorem outlook_succ_of_room_le {bus : Bus} {generations : Nat} {queue : List Pending}
    (small : ∀ pending ∈ queue, bus.room pending ≤ generations) :
    bus.outlook (generations + 1) queue = bus.outlook generations queue := by
  induction generations generalizing queue with
  | zero =>
    have none : queue.flatMap bus.derived = [] := List.flatMap_eq_nil_iff.mpr fun pending member =>
      derived_eq_nil_of_room (Nat.le_zero.mp (small pending member))
    rw [outlook_succ, none]
    rfl
  | succ generations ih =>
    have next : ∀ pending ∈ queue.flatMap bus.derived, bus.room pending ≤ generations := by
      intro pending member
      obtain ⟨parent, waits, born⟩ := List.mem_flatMap.mp member
      have less := room_lt_of_mem_derived born
      exact Nat.le_of_lt_succ (Nat.lt_of_lt_of_le less (small parent waits))
    rw [outlook_succ, ih next, ← outlook_succ]

/-- The publications that a queue leads to, its own messages among them. -/
def outstanding (bus : Bus) (queue : List Pending) : Nat := bus.outlook bus.hopLimit.toNat queue

theorem outstanding_singleton (bus : Bus) (pending : Pending) :
    bus.outstanding [pending] = bus.outstanding (bus.derived pending) + 1 := by
  have small : ∀ waiting ∈ [pending], bus.room waiting ≤ bus.hopLimit.toNat :=
    fun waiting _ => Nat.sub_le ..
  rw [outstanding, ← outlook_succ_of_room_le small, outlook_succ, List.flatMap_singleton,
    List.length_singleton, Nat.add_comm, outstanding]

/-- Serving the front of a queue brings it one publication closer to its end. -/
theorem outstanding_served (bus : Bus) (pending : Pending) (rest : List Pending) :
    bus.outstanding (rest ++ bus.derived pending) < bus.outstanding (pending :: rest) := by
  calc bus.outstanding (rest ++ bus.derived pending)
    _ = bus.outstanding rest + bus.outstanding (bus.derived pending) := outlook_append ..
    _ < bus.outstanding [pending] + bus.outstanding rest := by
      rw [outstanding_singleton]
      omega
    _ = bus.outstanding (pending :: rest) := (bus.outlook_append _ [pending] rest).symm

/-- Serves the queue front first; `index` is the number of publications so far. -/
def dispatch (bus : Bus) (index : Nat) : List Pending → List Event
  | [] => []
  | pending :: rest =>
    bus.segment index pending ++ bus.dispatch (index + 1) (rest ++ bus.derived pending)
termination_by queue => bus.outstanding queue
decreasing_by exact outstanding_served bus pending rest

def publish (bus : Bus) (sender : ModuleId) (message : Message) : Cascade :=
  ⟨bus.dispatch 0 [⟨sender, message, 0⟩]⟩

@[simp] theorem dispatch_nil (bus : Bus) (index : Nat) : bus.dispatch index [] = [] := by
  rw [dispatch]

theorem dispatch_cons (bus : Bus) (index : Nat) (pending : Pending) (rest : List Pending) :
    bus.dispatch index (pending :: rest) =
      bus.segment index pending ++ bus.dispatch (index + 1) (rest ++ bus.derived pending) := by
  rw [dispatch]

end Bus

end GatewaySim
