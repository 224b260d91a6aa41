import GatewaySim.Proofs.Bus.Shape

/-! # Modules that only listen

A module that never republishes can join a bus without disturbing it. Its receipts stand in the new
cascades behind those of the modules before it; without them, the cascades are what they were
(`publish_register_listener`).
-/

namespace GatewaySim

def Event.reaches (id : ModuleId) (event : Event) : Bool :=
  event.receipt?.any fun receipt => receipt.receiver = id

/-- A module that derives no messages from those that it receives. -/
def Module.Listens (module : Module) : Prop :=
  ∀ message reaction, reaction ∈ module.receive message → reaction.republish = none

namespace Bus

def joined (bus : Bus) (module : Module) : Bus := (bus.register module).2

variable {bus : Bus} {listener : Module}

@[simp] theorem modules_joined : (bus.joined listener).modules = bus.modules ++ [listener] := rfl

@[simp] theorem hopLimit_joined : (bus.joined listener).hopLimit = bus.hopLimit := rfl

theorem nameOf_joined {id : ModuleId} (other : id ≠ bus.modules.length) :
    (bus.joined listener).nameOf id = bus.nameOf id := by
  rcases Nat.lt_or_gt_of_ne other with before | after
  · simp [nameOf, List.getElem?_append_left before]
  · have beyond : bus.modules[id]? = none := List.getElem?_eq_none (Nat.le_of_lt after)
    have beyondToo : (bus.joined listener).modules[id]? = none :=
      List.getElem?_eq_none (by rw [modules_joined, List.length_append]; exact after)
    simp only [nameOf, beyond, beyondToo]

/-! ## One publication -/

/-- What the module that joined shows of a message comes last. -/
theorem responses_joined {sender : ModuleId} (other : sender ≠ bus.modules.length)
    (message : Message) :
    (bus.joined listener).responses sender message =
      bus.responses sender message ++
        (listener.receive message).map fun reaction =>
          ⟨bus.modules.length, listener.name, reaction⟩ := by
  simp [responses, List.zipIdx_append, Ne.symm other]

theorem id_lt_of_mem_responses {sender : ModuleId} {message : Message} {response : Response}
    (member : response ∈ bus.responses sender message) : response.id < bus.modules.length := by
  obtain ⟨module, found, _⟩ := mem_responses_iff.mp member
  exact (List.getElem?_eq_some_iff.mp found).choose

theorem derived_joined (listens : listener.Listens) {pending : Pending}
    (other : pending.sender ≠ bus.modules.length) :
    (bus.joined listener).derived pending = bus.derived pending := by
  have silent : ((listener.receive pending.message).map fun reaction =>
      (⟨bus.modules.length, listener.name, reaction⟩ : Response)).filterMap (fun response =>
        response.reaction.republish.map fun message =>
          (⟨response.id, message, pending.hop + 1⟩ : Pending)) = [] := by
    rw [List.filterMap_eq_nil_iff, List.forall_mem_map]
    intro reaction reacts
    rw [listens pending.message reaction reacts, Option.map_none]
  simp only [derived, hopLimit_joined, responses_joined other, List.filterMap_append, silent,
    List.append_nil]

theorem sender_lt_of_mem_derived {pending next : Pending} (member : next ∈ bus.derived pending) :
    next.sender < bus.modules.length := by
  unfold derived at member
  split at member
  · obtain ⟨response, responds, found⟩ := List.mem_filterMap.mp member
    obtain ⟨message, _, rfl⟩ := Option.map_eq_some_iff.mp found
    exact id_lt_of_mem_responses responds
  · cases member

theorem responseEvents_filter_of_ne (index : Nat) (pending : Pending) {response : Response}
    {id : ModuleId} (other : response.id ≠ id) :
    ((bus.responseEvents index pending response).filter fun event => !event.reaches id) =
      bus.responseEvents index pending response := by
  rw [List.filter_eq_self]
  unfold responseEvents
  dsimp only
  split
  · simp [Event.reaches, Event.receipt?, other]
  · split <;> simp [Event.reaches, Event.receipt?, other]

theorem responseEvents_filter_of_silent (index : Nat) (pending : Pending) {response : Response}
    (silent : response.reaction.republish = none) :
    ((bus.responseEvents index pending response).filter fun event =>
      !event.reaches response.id) = [] := by
  unfold responseEvents
  simp [silent, Event.reaches, Event.receipt?]

theorem segment_joined (listens : listener.Listens) (index : Nat) {pending : Pending}
    (other : pending.sender ≠ bus.modules.length) :
    (((bus.joined listener).segment index pending).filter fun event =>
        !event.reaches bus.modules.length) =
      bus.segment index pending := by
  have before : ((bus.responses pending.sender pending.message).flatMap fun response =>
        ((bus.joined listener).responseEvents index pending response).filter fun event =>
          !event.reaches bus.modules.length) =
      (bus.responses pending.sender pending.message).flatMap
        (bus.responseEvents index pending) := by
    apply List.flatMap_congr
    intro response member
    exact responseEvents_filter_of_ne index pending (Nat.ne_of_lt (id_lt_of_mem_responses member))
  have behind : (((listener.receive pending.message).map fun reaction =>
        (⟨bus.modules.length, listener.name, reaction⟩ : Response)).flatMap fun response =>
        ((bus.joined listener).responseEvents index pending response).filter fun event =>
          !event.reaches bus.modules.length) = [] := by
    rw [List.flatMap_eq_nil_iff, List.forall_mem_map]
    intro reaction reacts
    have silent : (⟨bus.modules.length, listener.name, reaction⟩ : Response).reaction.republish =
        none := listens pending.message reaction reacts
    exact responseEvents_filter_of_silent index pending silent
  rw [segment, List.filter_cons_of_pos rfl, List.filter_flatMap, responses_joined other,
    List.flatMap_append, before, behind, List.append_nil, nameOf_joined other]
  rfl

/-! ## The whole cascade -/

/-- The queue never holds a message of the module that joined. -/
theorem dispatch_joined (listens : listener.Listens) (index : Nat) (queue : List Pending)
    (others : ∀ pending, pending ∈ queue → pending.sender ≠ bus.modules.length) :
    (((bus.joined listener).dispatch index queue).filter fun event =>
        !event.reaches bus.modules.length) =
      bus.dispatch index queue := by
  induction index, queue using dispatch.induct bus with
  | case1 index => simp
  | case2 index pending rest ih =>
    rw [List.forall_mem_cons] at others
    have behind : ∀ next, next ∈ rest ++ bus.derived pending →
        next.sender ≠ bus.modules.length := by
      rw [List.forall_mem_append]
      exact ⟨others.2, fun next member => Nat.ne_of_lt (sender_lt_of_mem_derived member)⟩
    rw [dispatch_cons, dispatch_cons, List.filter_append, segment_joined listens index others.1,
      derived_joined listens others.1, ih behind]

theorem publish_joined (listens : listener.Listens) {sender : ModuleId}
    (other : sender ≠ bus.modules.length) (seed : Message) :
    (((bus.joined listener).publish sender seed).events.filter fun event =>
        !event.reaches bus.modules.length) =
      (bus.publish sender seed).events :=
  dispatch_joined listens 0 _ (List.forall_mem_singleton.mpr other)

/-- The publications are the same, and so is what the module that joined gets to see. -/
theorem publications_joined (listens : listener.Listens) {sender : ModuleId}
    (other : sender ≠ bus.modules.length) (seed : Message) :
    ((bus.joined listener).publish sender seed).publications =
      (bus.publish sender seed).publications := by
  rw [Cascade.publications, Cascade.publications, ← publish_joined listens other,
    List.filterMap_filter]
  apply List.filterMap_congr
  intro event _
  cases event with
  | published publication => rfl
  | received receipt => simp
  | rejected rejection => rfl

theorem publish_joined_of_unmoved (listens : listener.Listens) {sender : ModuleId}
    (other : sender ≠ bus.modules.length) {seed : Message}
    (unmoved : ∀ publication, publication ∈ (bus.publish sender seed).publications →
      listener.receive publication.message = []) :
    (bus.joined listener).publish sender seed = bus.publish sender seed := by
  have untouched : ∀ event, event ∈ ((bus.joined listener).publish sender seed).events →
      (!event.reaches bus.modules.length) = true := by
    intro event member
    cases event with
    | published | rejected => rfl
    | received receipt =>
      obtain ⟨publication, published, id, module, found, _, reaction, reacts, rfl⟩ :=
        mem_receipts_iff.mp (Cascade.mem_receipts.mpr member)
      rw [publications_joined listens other] at published
      have elsewhere : id ≠ bus.modules.length := by
        rintro rfl
        have last : listener = module := by simpa using found
        rw [← last, unmoved publication published] at reacts
        cases reacts
      simpa [Event.reaches, Event.receipt?, Publication.receiptAt] using elsewhere
  have events := publish_joined listens other seed
  rw [List.filter_eq_self.mpr untouched] at events
  exact congrArg Cascade.mk events

/-- A module that only listens changes nothing but its own receipts: without these, each cascade
that it did not start is what it was before the module joined. A cascade with no message that it
reacts to is the same altogether. -/
theorem publish_register_listener (bus : Bus) (listener : Module) (listens : listener.Listens)
    (sender : ModuleId) (other : sender ≠ (bus.register listener).1) (seed : Message) :
    let joined := (bus.register listener).2
    let id := (bus.register listener).1
    ((joined.publish sender seed).events.filter fun event => !event.reaches id) =
        (bus.publish sender seed).events ∧
      ((∀ publication, publication ∈ (bus.publish sender seed).publications →
          listener.receive publication.message = []) →
        joined.publish sender seed = bus.publish sender seed) :=
  ⟨publish_joined listens other seed, publish_joined_of_unmoved listens other⟩

/-- A listener that reports every message twice, on a bus of echoes. -/
theorem publish_register_listener_echoes :
    let listener : Module :=
      { name := "a", receive := fun _ => [.report "first", .report "second"] }
    let joined := ((echoes 1).register listener).2
    let id := ((echoes 1).register listener).1
    listener.Listens ∧ 0 ≠ id ∧
      ((joined.publish 0 .empty).events.countP fun event => event.reaches id) = 6 ∧
      ((joined.publish 0 .empty).events.filter fun event => !event.reaches id) =
        ((echoes 1).publish 0 .empty).events := by
  intro listener joined id
  have listens : listener.Listens := by
    intro message reaction member
    simp only [listener, List.mem_cons, List.not_mem_nil, or_false] at member
    rcases member with rfl | rfl <;> rfl
  have other : 0 ≠ id := by decide
  refine ⟨listens, other, ?_,
    (publish_register_listener (echoes 1) listener listens 0 other .empty).1⟩
  rw [publish_events]
  rfl

end Bus

end GatewaySim
