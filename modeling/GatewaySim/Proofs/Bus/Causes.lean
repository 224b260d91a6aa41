import GatewaySim.Proofs.Bus.Shape

/-! # Nothing happens without a cause

Every event of a cascade but the publication of the seed has its cause before it: a receipt and a
rejection are reactions to a publication, and a publication is of a message that was derived from
one (`publish_follows`). Facts about lineages are proved from this, going back from cause to cause,
whatever the modules and however long the cascade (`kept_or_marked`, `forall_message_of_invariant`).
-/

namespace GatewaySim.Bus

/-- An event with its cause, a publication, among the events `past`. -/
inductive Follows (bus : Bus) (past : List Event) : Event → Prop where
  | published {q p : Publication} (earlier : .published q ∈ past) (hop : p.hop = q.hop + 1)
      (child : (p.sender, p.message) ∈ bus.children q.sender q.message) :
      Follows bus past (.published p)
  | received {q : Publication} {id : ModuleId} {module : Module} {reaction : Reaction}
      (earlier : .published q ∈ past) (found : bus.modules[id]? = some module)
      (other : id ≠ q.sender) (reacts : reaction ∈ module.receive q.message) :
      Follows bus past (.received (q.receiptAt id module reaction))
  | rejected {q : Publication} {r : Rejection} (earlier : .published q ∈ past)
      (hop : r.hop = q.hop + 1)
      (child : (r.sender, r.message) ∈ bus.children q.sender q.message) :
      Follows bus past (.rejected r)

/-- A waiting message that was derived from a message published among the events `past`. -/
def Due (bus : Bus) (past : List Event) (pending : Pending) : Prop :=
  ∃ q, .published q ∈ past ∧ pending.hop = q.hop + 1 ∧
    (pending.sender, pending.message) ∈ bus.children q.sender q.message

variable {bus : Bus} {sender : ModuleId} {seed : Message} {past : List Event}

theorem Due.append {pending : Pending} (due : bus.Due past pending) (more : List Event) :
    bus.Due (past ++ more) pending := by
  obtain ⟨q, earlier, origin⟩ := due
  exact ⟨q, List.mem_append_left more earlier, origin⟩

/-! ## One segment -/

/-- What a module shows of a publication is caused by it. -/
theorem follows_of_mem_responseEvents {index : Nat} {pending : Pending} {response : Response}
    {event : Event} (asked : response ∈ bus.responses pending.sender pending.message)
    (shown : event ∈ bus.responseEvents index pending response)
    (earlier : .published (bus.publication index pending) ∈ past) : bus.Follows past event := by
  obtain ⟨id, name, reaction⟩ := response
  obtain ⟨module, found, other, rfl, reacts⟩ := mem_responses_iff.mp asked
  have receipt : bus.Follows past
      (.received ((bus.publication index pending).receiptAt id module reaction)) :=
    .received earlier found other reacts
  unfold responseEvents at shown
  cases republished : reaction.republish with
  | none =>
    simp only [republished, List.mem_singleton] at shown
    exact shown ▸ receipt
  | some derived =>
    have child : (id, derived) ∈ bus.children pending.sender pending.message :=
      mem_children_iff.mpr ⟨other, module, found, reaction, reacts, republished⟩
    by_cases below : pending.hop < bus.hopLimit
    · simp only [republished, below, if_true, List.mem_singleton] at shown
      exact shown ▸ receipt
    · simp only [republished, below, if_false, List.mem_cons, List.not_mem_nil, or_false] at shown
      rcases shown with rfl | rfl
      · exact receipt
      · exact .rejected earlier rfl child

/-- A segment opens with its publication, which causes the rest of it. -/
theorem follows_of_segment (past : List Event) {index : Nat} {pending : Pending}
    {before after : List Event} {event : Event}
    (split : bus.segment index pending = before ++ event :: after) :
    (before = [] ∧ event = .published (bus.publication index pending)) ∨
      bus.Follows (past ++ before) event := by
  cases before with
  | nil =>
    obtain ⟨opening, _⟩ := List.cons.inj split
    exact .inl ⟨rfl, opening.symm⟩
  | cons first before =>
    obtain ⟨rfl, rest⟩ := List.cons.inj split
    have member : event ∈ (bus.responses pending.sender pending.message).flatMap
        (bus.responseEvents index pending) := by
      rw [rest]
      exact List.mem_append_right before (List.mem_cons_self ..)
    obtain ⟨response, asked, shown⟩ := List.mem_flatMap.mp member
    have earlier : .published (bus.publication index pending) ∈
        past ++ .published (bus.publication index pending) :: before := by simp
    exact .inr (follows_of_mem_responseEvents asked shown earlier)

/-- What joins the queue has been derived from the publication just shown. -/
theorem due_of_mem_derived {index : Nat} {pending next : Pending}
    (member : next ∈ bus.derived pending) :
    bus.Due (past ++ bus.segment index pending) next := by
  have shown : .published (bus.publication index pending) ∈ past ++ bus.segment index pending :=
    List.mem_append_right past (List.mem_cons_self ..)
  by_cases below : pending.hop < bus.hopLimit
  · rw [derived_of_lt below, List.mem_map] at member
    obtain ⟨entry, child, rfl⟩ := member
    exact ⟨_, shown, rfl, child⟩
  · rw [derived_of_not_lt below] at member
    exact absurd member List.not_mem_nil

/-! ## The whole cascade -/

/-- An event of two lists in a row stands in the first or behind all of it. -/
theorem append_eq_split {front back before after : List Event} {event : Event}
    (split : front ++ back = before ++ event :: after) :
    (∃ rest, front = before ++ event :: rest) ∨
      (∃ skipped, before = front ++ skipped ∧ back = skipped ++ event :: after) := by
  rcases List.append_eq_append_iff.mp split with ⟨skipped, same, behind⟩ | ⟨rest, here, behind⟩
  · exact .inr ⟨skipped, same, behind⟩
  · cases rest with
    | nil =>
      rw [List.append_nil] at here
      exact .inr ⟨[], by rw [here, List.append_nil], behind.symm⟩
    | cons same rest =>
      obtain ⟨rfl, _⟩ := List.cons.inj behind
      exact .inl ⟨rest, here⟩

/-- While all that waits was derived from what has been shown, what the queue leads to follows. -/
theorem follows_of_dispatch {index : Nat} {queue : List Pending}
    (due : ∀ pending, pending ∈ queue → bus.Due past pending) {before after : List Event}
    {event : Event} (split : bus.dispatch index queue = before ++ event :: after) :
    bus.Follows (past ++ before) event := by
  induction index, queue using dispatch.induct bus generalizing past before with
  | case1 index => simp at split
  | case2 index pending rest ih =>
    rw [dispatch_cons] at split
    rcases append_eq_split split with ⟨_, here⟩ | ⟨skipped, rfl, behind⟩
    · rcases follows_of_segment past here with ⟨rfl, rfl⟩ | follows
      · obtain ⟨q, earlier, hop, child⟩ := due pending (List.mem_cons_self ..)
        exact .published (List.mem_append_left _ earlier) hop child
      · exact follows
    · have next : ∀ other, other ∈ rest ++ bus.derived pending →
          bus.Due (past ++ bus.segment index pending) other := by
        intro other member
        rcases List.mem_append.mp member with waiting | joins
        · exact (due other (List.mem_cons_of_mem _ waiting)).append _
        · exact due_of_mem_derived joins
      rw [← List.append_assoc]
      exact ih next behind

/-- A cascade opens with the seed, and every other event has its cause among the events before
it. -/
theorem publish_follows {before after : List Event} {event : Event}
    (split : (bus.publish sender seed).events = before ++ event :: after) :
    (before = [] ∧ event = .published (bus.publication 0 ⟨sender, seed, 0⟩)) ∨
      bus.Follows before event := by
  have opening : (bus.publish sender seed).events =
      bus.segment 0 ⟨sender, seed, 0⟩ ++ bus.dispatch 1 (bus.derived ⟨sender, seed, 0⟩) :=
    dispatch_cons bus 0 ⟨sender, seed, 0⟩ []
  rw [opening] at split
  rcases append_eq_split split with ⟨_, here⟩ | ⟨skipped, rfl, behind⟩
  · exact follows_of_segment [] here
  · have due : ∀ pending, pending ∈ bus.derived ⟨sender, seed, 0⟩ →
        bus.Due ([] ++ bus.segment 0 ⟨sender, seed, 0⟩) pending :=
      fun _ member => due_of_mem_derived member
    exact .inr (follows_of_dispatch due behind)

/-! ## Back from cause to cause -/

/-- If the seed has a property that only what marked modules send may lose, then a published message
has it, or a marked module has published before or publishes it. -/
theorem kept_or_marked {keeps : Message → Prop} (marked : ModuleId → Prop) (start : keeps seed)
    (step : ∀ parent message id derived, keeps message →
      (id, derived) ∈ bus.children parent message → keeps derived ∨ marked id)
    {before after : List Event} {p : Publication}
    (split : (bus.publish sender seed).events = before ++ .published p :: after) :
    keeps p.message ∨
      ∃ q, .published q ∈ before ++ [.published p] ∧ marked q.sender := by
  -- Each cause lies strictly before what it causes, so there is less before it.
  induction size : before.length using Nat.strongRecOn generalizing before after p with
  | ind count ih =>
    rcases publish_follows split with ⟨_, same⟩ | follows
    · cases same
      exact .inl start
    · cases follows with
      | @published q _ earlier _ child =>
        obtain ⟨front, back, rfl⟩ := List.append_of_mem earlier
        rw [List.append_assoc, List.cons_append] at split
        have less : front.length < count := by
          rw [List.length_append, List.length_cons] at size
          omega
        rcases ih front.length less split rfl with kept | ⟨other, shown, mark⟩
        · rcases step _ _ _ _ kept child with still | mark
          · exact .inl still
          · exact .inr ⟨p, List.mem_append_right _ (List.mem_singleton_self _), mark⟩
        · have first : .published other ∈ front ++ .published q :: back := by
            rw [List.append_cons]
            exact List.mem_append_left _ shown
          exact .inr ⟨other, List.mem_append_left _ first, mark⟩

/-- What the seed has and no derivation loses, every message of the cascade has. -/
theorem forall_message_of_invariant {keeps : Message → Prop} (start : keeps seed)
    (step : ∀ parent message id derived, keeps message →
      (id, derived) ∈ bus.children parent message → keeps derived)
    {event : Event} (member : event ∈ (bus.publish sender seed).events) :
    keeps event.message := by
  have published {before after : List Event} {p : Publication}
      (split : (bus.publish sender seed).events = before ++ .published p :: after) :
      keeps p.message := by
    have kept := kept_or_marked (fun _ => False) start
      (fun parent message id derived kept child => .inl (step parent message id derived kept child))
      split
    simpa using kept
  obtain ⟨before, after, split⟩ := List.append_of_mem member
  have cause {q : Publication} (earlier : .published q ∈ before) : keeps q.message := by
    obtain ⟨front, back, rfl⟩ := List.append_of_mem earlier
    rw [List.append_assoc, List.cons_append] at split
    exact published split
  rcases publish_follows split with ⟨_, rfl⟩ | follows
  · exact start
  · cases follows with
    | published earlier _ child => exact step _ _ _ _ (cause earlier) child
    | received earlier => exact cause earlier
    | rejected earlier _ child => exact step _ _ _ _ (cause earlier) child

end GatewaySim.Bus
