import GatewaySim.Bus.Observed
import Mathlib.Data.List.Basic

/-! # What observers are told

A bus is used by registering modules, letting observers subscribe and publishing messages, in any
order. The observers are then called as the history of cascades says (`performAll_eq`): for each
event of each cascade, every subscriber so far, in the order of subscription. So each subscriber is
told the cascades that are published behind its subscription (`notes_subscription`), and one that
subscribed several times is told each event as often (`view_performAll`).
-/

namespace GatewaySim

/-- What can be done with an observed bus on which subscribers are given as elements of `α`. -/
inductive Operation (α : Type) where
  | register (module : Module)
  | subscribe (subscriber : α)
  | publish (sender : ModuleId) (message : Message)

def Operation.subscribers {α : Type} (operations : List (Operation α)) : List α :=
  operations.filterMap fun
    | .subscribe subscriber => some subscriber
    | _ => none

/-- An observed bus in use: the state of its observers, and the cascades that it has returned. -/
structure Session (σ : Type) where
  observed : ObservedBus σ
  state : σ
  cascades : List Cascade := []

structure Call (α : Type) where
  number : Nat
  subscriber : α
  event : Event

namespace Session

variable {α σ τ : Type}

/-- One operation. The observer that stands for a subscriber may depend on its number, which is
that of the subscriptions before. -/
def perform (observer : Nat → α → σ → Event → σ) (session : Session σ) :
    Operation α → Session σ
  | .register module => { session with observed := (session.observed.register module).2 }
  | .subscribe subscriber =>
    { session with
      observed := session.observed.subscribe
        (observer session.observed.observers.length subscriber) }
  | .publish sender message =>
    let (cascade, state) := session.observed.publish session.state sender message
    { session with state, cascades := session.cascades ++ [cascade] }

def performAll (observer : Nat → α → σ → Event → σ) (session : Session σ)
    (operations : List (Operation α)) : Session σ :=
  operations.foldl (perform observer) session

/-! ## The history of a bus -/

/-- The cascades that some operations publish, each with the subscribers at that time. -/
def history (bus : Bus) (subscribers : List α) :
    List (Operation α) → List (List α × Cascade)
  | [] => []
  | .register module :: rest => history (bus.register module).2 subscribers rest
  | .subscribe subscriber :: rest => history bus (subscribers ++ [subscriber]) rest
  | .publish sender message :: rest =>
    (subscribers, bus.publish sender message) :: history bus subscribers rest

def callsOf (subscribers : List α) (event : Event) : List (Call α) :=
  subscribers.zipIdx.map fun (subscriber, number) => ⟨number, subscriber, event⟩

def calls (history : List (List α × Cascade)) : List (Call α) :=
  history.flatMap fun entry => entry.2.events.flatMap (callsOf entry.1)

/-- The events of a history, each as often in a row as the subscribers at its time count. -/
def told (counts : List α → Nat) (history : List (List α × Cascade)) : List Event :=
  history.flatMap fun entry => entry.2.events.flatMap (List.replicate (counts entry.1))

def observersOf (observer : Nat → α → σ → Event → σ) (subscribers : List α) :
    List (σ → Event → σ) :=
  subscribers.zipIdx.map fun (subscriber, number) => observer number subscriber

def answer (observer : Nat → α → σ → Event → σ) (state : σ) (call : Call α) : σ :=
  observer call.number call.subscriber state call.event

theorem notify_eq {observer : Nat → α → σ → Event → σ} {observed : ObservedBus σ}
    {subscribers : List α} (subscribed : observed.observers = observersOf observer subscribers) :
    observed.notify = fun state event =>
      (callsOf subscribers event).foldl (answer observer) state := by
  funext state event
  rw [ObservedBus.notify, subscribed, observersOf, callsOf, List.foldl_map, List.foldl_map]
  rfl

/-- Whatever is done, the observers are called as the history says. -/
theorem performAll_eq {observer : Nat → α → σ → Event → σ} {session : Session σ}
    {subscribers : List α}
    (subscribed : session.observed.observers = observersOf observer subscribers)
    (operations : List (Operation α)) :
    let history := history session.observed.bus subscribers operations
    let after := session.performAll observer operations
    after.state = (calls history).foldl (answer observer) session.state ∧
      after.cascades = session.cascades ++ history.map Prod.snd := by
  induction operations generalizing session subscribers with
  | nil => simp [performAll, history, calls]
  | cons operation rest ih =>
    cases operation with
    | register module => exact @ih (session.perform observer (.register module)) _ subscribed
    | subscribe subscriber =>
      apply @ih (session.perform observer (.subscribe subscriber))
      simp [perform, ObservedBus.subscribe, subscribed, observersOf, List.zipIdx_append]
    | publish sender message =>
      have state : (session.perform observer (.publish sender message)).state =
          ((session.observed.bus.publish sender message).events.flatMap
            (callsOf subscribers)).foldl (answer observer) session.state := by
        simp only [perform, ObservedBus.publish_eq, notify_eq subscribed, List.foldl_flatMap]
      have cascades : (session.perform observer (.publish sender message)).cascades =
          session.cascades ++ [session.observed.bus.publish sender message] := by
        simp only [perform, ObservedBus.publish_eq]
      obtain ⟨called, returned⟩ :=
        @ih (session.perform observer (.publish sender message)) _ subscribed
      rw [state, ← List.foldl_append] at called
      rw [cascades, List.append_assoc] at returned
      exact ⟨called, returned⟩

theorem map_filter_callsOf (chosen : Nat → α → Bool) (subscribers : List α) (event : Event) :
    ((callsOf subscribers event).filter fun call => chosen call.number call.subscriber).map
        Call.event =
      List.replicate (subscribers.zipIdx.countP fun entry => chosen entry.2 entry.1) event := by
  rw [callsOf, List.filter_map, List.map_map, List.countP_eq_length_filter]
  exact List.map_const' ..

theorem map_filter_calls (chosen : Nat → α → Bool) (history : List (List α × Cascade)) :
    ((calls history).filter fun call => chosen call.number call.subscriber).map Call.event =
      told (fun subscribers => subscribers.zipIdx.countP fun entry => chosen entry.2 entry.1)
        history := by
  simp only [calls, told, List.filter_flatMap, List.map_flatMap, map_filter_callsOf]

/-- A part of the state that some observers change alike and the others leave alone. -/
theorem foldl_answer_view {β : Type} {observer : Nat → α → σ → Event → σ} (view : σ → β)
    (act : β → Event → β) (chosen : Nat → α → Bool)
    (acts : ∀ number subscriber state event,
      view (observer number subscriber state event) =
        if chosen number subscriber then act (view state) event else view state)
    (calls : List (Call α)) (state : σ) :
    view (calls.foldl (answer observer) state) =
      ((calls.filter fun call => chosen call.number call.subscriber).map Call.event).foldl act
        (view state) := by
  induction calls generalizing state with
  | nil => rfl
  | cons call rest ih =>
    rw [List.foldl_cons, ih, answer, acts]
    by_cases here : chosen call.number call.subscriber <;> simp [here]

/-- What becomes of a part of the state that subscribers of some kind change, each alike. -/
theorem view_performAll {β : Type} {observer : Nat → α → σ → Event → σ} (view : σ → β)
    (act : β → Event → β) (chosen : Nat → α → Bool)
    (acts : ∀ number subscriber state event,
      view (observer number subscriber state event) =
        if chosen number subscriber then act (view state) event else view state)
    (bus : Bus) (start : σ) (operations : List (Operation α)) :
    view (performAll observer ⟨{ bus }, start, []⟩ operations).state =
      (told (fun subscribers => subscribers.zipIdx.countP fun entry => chosen entry.2 entry.1)
        (history bus [] operations)).foldl act (view start) := by
  have state := (@performAll_eq _ _ observer ⟨{ bus }, start, []⟩ [] rfl operations).1
  rw [state, foldl_answer_view view act chosen acts, map_filter_calls]

theorem cascades_performAll (observer : Nat → α → σ → Event → σ) (bus : Bus) (start : σ)
    (operations : List (Operation α)) :
    (performAll observer ⟨{ bus }, start, []⟩ operations).cascades =
      (history bus [] operations).map Prod.snd :=
  (@performAll_eq _ _ observer ⟨{ bus }, start, []⟩ [] rfl operations).2

/-! ## One subscriber -/

theorem told_append (counts : List α → Nat) (first second : List (List α × Cascade)) :
    told counts (first ++ second) = told counts first ++ told counts second :=
  List.flatMap_append

theorem told_of_zero {counts : List α → Nat} {history : List (List α × Cascade)}
    (none : ∀ entry, entry ∈ history → counts entry.1 = 0) : told counts history = [] := by
  rw [told, List.flatMap_eq_nil_iff]
  intro entry member
  simp [none entry member]

theorem told_of_one {counts : List α → Nat} {history : List (List α × Cascade)}
    (once : ∀ entry, entry ∈ history → counts entry.1 = 1) :
    told counts history = (history.map Prod.snd).flatMap Cascade.events := by
  rw [told, List.flatMap_map]
  refine List.flatMap_congr fun entry member => ?_
  rw [once entry member]
  exact List.flatMap_singleton' _

theorem countP_number (subscribers : List α) (number : Nat) :
    (subscribers.zipIdx.countP fun entry => decide (entry.2 = number)) =
      if number < subscribers.length then 1 else 0 := by
  have numbers : (subscribers.zipIdx.map Prod.snd).count number =
      if number < subscribers.length then 1 else 0 := by
    rw [List.zipIdx_map_snd, List.Nodup.count List.nodup_range']
    simp
  rw [← numbers, List.count, List.countP_map]
  rfl

theorem history_append (bus : Bus) (subscribers : List α) (before : List (Operation α)) :
    ∃ grown : Bus, ∀ after, history bus subscribers (before ++ after) =
      history bus subscribers before ++
        history grown (subscribers ++ Operation.subscribers before) after := by
  induction before generalizing bus subscribers with
  | nil => exact ⟨bus, fun after => by simp [history, Operation.subscribers]⟩
  | cons operation rest ih =>
    cases operation with
    | register module => exact ih (bus.register module).2 subscribers
    | subscribe subscriber =>
      obtain ⟨grown, parts⟩ := ih bus (subscribers ++ [subscriber])
      refine ⟨grown, fun after => ?_⟩
      simpa [history, Operation.subscribers] using parts after
    | publish sender message =>
      obtain ⟨grown, parts⟩ := ih bus subscribers
      exact ⟨grown, fun after => congrArg _ (parts after)⟩

/-- Subscribers stay, and only operations add to them. -/
theorem isPrefix_of_mem_history {bus : Bus} {subscribers : List α}
    {operations : List (Operation α)} {entry : List α × Cascade}
    (member : entry ∈ history bus subscribers operations) :
    subscribers <+: entry.1 ∧ entry.1 <+: subscribers ++ Operation.subscribers operations := by
  induction operations generalizing bus subscribers with
  | nil => cases member
  | cons operation rest ih =>
    cases operation with
    | register module => exact ih member
    | subscribe subscriber =>
      obtain ⟨low, high⟩ := ih member
      refine ⟨(List.prefix_append ..).trans low, ?_⟩
      simpa [Operation.subscribers] using high
    | publish sender message =>
      rcases List.mem_cons.mp member with rfl | later
      · exact ⟨List.prefix_refl _, List.prefix_append ..⟩
      · exact ih later

/-- An observer that also notes under which number it is told an event. -/
def noted (number : Nat) (observer : σ → Event → σ) (state : σ × List (Nat × Event))
    (event : Event) : σ × List (Nat × Event) :=
  (observer state.1 event, state.2 ++ [(number, event)])

def notes (number : Nat) (state : σ × List (Nat × Event)) : List Event :=
  (state.2.filter fun note => note.1 = number).map Prod.snd

theorem notes_performAll (bus : Bus) (start : σ) (number : Nat)
    (operations : List (Operation (σ → Event → σ))) :
    notes number (performAll noted ⟨{ bus }, (start, []), []⟩ operations).state =
      told (fun subscribers => if number < subscribers.length then 1 else 0)
        (history bus [] operations) := by
  rw [view_performAll (notes number) (fun events event => events ++ [event])
    (fun other _ => other = number)]
  · simp [countP_number, notes, ← List.flatMap_def]
  · intro other subscriber state event
    by_cases same : other = number <;> simp [notes, noted, same]

/-- Taking notes changes nothing else. -/
theorem fst_performAll_noted (bus : Bus) (start : σ)
    (operations : List (Operation (σ → Event → σ))) :
    (performAll noted ⟨{ bus }, (start, []), []⟩ operations).state.1 =
      (performAll (fun _ observer => observer) ⟨{ bus }, start, []⟩ operations).state := by
  rw [(@performAll_eq _ _ noted ⟨{ bus }, (start, []), []⟩ [] rfl operations).1,
    (@performAll_eq _ _ (fun _ observer => observer) ⟨{ bus }, start, []⟩ [] rfl operations).1]
  exact (List.foldl_hom Prod.fst fun _ _ => rfl).symm

/-- A subscriber is told the cascades that are published behind its subscription. -/
theorem notes_subscription (bus : Bus) (start : σ)
    (before after : List (Operation (σ → Event → σ))) (observer : σ → Event → σ) :
    notes (Operation.subscribers before).length
        (performAll noted ⟨{ bus }, (start, []), []⟩
          (before ++ .subscribe observer :: after)).state =
      (((history bus [] (before ++ .subscribe observer :: after)).map Prod.snd).drop
        (history bus [] before).length).flatMap Cascade.events := by
  obtain ⟨grown, parts⟩ := history_append bus [] before
  have early : ∀ entry, entry ∈ history bus [] before →
      (if (Operation.subscribers before).length < entry.1.length then 1 else 0) = 0 := by
    intro entry member
    have few := (isPrefix_of_mem_history member).2.length_le
    exact if_neg (Nat.not_lt.mpr few)
  have late : ∀ entry, entry ∈ history grown ([] ++ Operation.subscribers before)
        (.subscribe observer :: after) →
      (if (Operation.subscribers before).length < entry.1.length then 1 else 0) = 1 := by
    intro entry member
    have behind : entry ∈ history grown ([] ++ Operation.subscribers before ++ [observer]) after :=
      member
    have many := (isPrefix_of_mem_history behind).1.length_le
    exact if_pos (Nat.lt_of_succ_le (by simpa using many))
  rw [notes_performAll, parts, told_append, told_of_zero early, told_of_one late, List.nil_append,
    List.map_append, List.drop_left' (List.length_map _)]

end Session

end GatewaySim
