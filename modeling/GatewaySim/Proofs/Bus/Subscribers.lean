import GatewaySim.Proofs.Bus.Deliveries
import GatewaySim.Proofs.Report.Printing
import GatewaySim.Proofs.Report.Totals
import GatewaySim.Report.Instruments
import Mathlib.Algebra.GroupWithZero.Nat

/-! # Consoles and statistics among the subscribers

A console that subscribed several times prints the line of each event as often in a row, and
statistics that did count it as often, whoever else subscribes to the bus
(`subscribers_see_cascades`).
-/

namespace GatewaySim

/-- Who subscribes to a bus: a console, statistics, or someone who observes with a state of their
own. -/
inductive Subscriber (τ : Type) where
  | console
  | statistics
  | other (observer : τ → Event → τ)

namespace Subscriber

variable {τ : Type}

def observer : Subscriber τ → Instruments × τ → Event → Instruments × τ
  | .console, (instruments, others), event => (instruments.trace event, others)
  | .statistics, (instruments, others), event => (instruments.watch event, others)
  | .other observer, (instruments, others), event => (instruments, observer others event)

def isConsole : Subscriber τ → Bool
  | .console => true
  | _ => false

def isStatistics : Subscriber τ → Bool
  | .statistics => true
  | _ => false

end Subscriber

namespace Session

variable {τ : Type}

theorem countP_zipIdx {α : Type} (p : α → Bool) (subscribers : List α) :
    (subscribers.zipIdx.countP fun entry => p entry.1) = subscribers.countP p := by
  conv_rhs => rw [← List.zipIdx_map_fst 0 subscribers, List.countP_map]
  rfl

/-- What subscribers of one kind make of their part of the state. -/
theorem view_subscribers {β : Type} (view : Instruments × τ → β) (act : β → Event → β)
    (kind : Subscriber τ → Bool)
    (acts : ∀ subscriber state event, view (Subscriber.observer subscriber state event) =
      if kind subscriber then act (view state) event else view state)
    (bus : Bus) (start : Instruments × τ) (operations : List (Operation (Subscriber τ))) :
    view (performAll (fun _ => Subscriber.observer) ⟨{ bus }, start, []⟩ operations).state =
      (told (List.countP kind) (history bus [] operations)).foldl act (view start) := by
  have numbered := view_performAll view act (fun _ => kind) (fun _ => acts) bus start operations
  simpa only [countP_zipIdx] using numbered

/-! ## Counting what is told -/

theorem countP_told {α : Type} (p : Event → Bool) (counts : List α → Nat)
    (history : List (List α × Cascade)) :
    (told counts history).countP p =
      (history.map fun entry => counts entry.1 * entry.2.events.countP p).sum := by
  have repeated (count : Nat) (events : List Event) :
      (events.flatMap (List.replicate count)).countP p = count * events.countP p := by
    induction events with
    | nil => rfl
    | cons event rest ih =>
      rw [List.flatMap_cons, List.countP_append, ih, List.countP_replicate, List.countP_cons,
        Nat.mul_add, Nat.add_comm]
      split <;> simp
  induction history with
  | nil => rfl
  | cons entry rest ih =>
    rw [told, List.flatMap_cons, List.countP_append, repeated, List.map_cons, List.sum_cons, ← ih,
      told]

theorem mem_told_iff {α : Type} {counts : List α → Nat} {history : List (List α × Cascade)}
    {event : Event} :
    event ∈ told counts history ↔
      ∃ entry, entry ∈ history ∧ event ∈ entry.2.events ∧ 0 < counts entry.1 := by
  simp [told, Nat.pos_iff_ne_zero]

def tallyOf {α : Type} (counts : List α → Nat) (history : List (List α × Cascade))
    (name : String) : Tally where
  published := (history.map fun entry => counts entry.1 *
    entry.2.publications.countP fun publication => publication.senderName = name).sum
  received := (history.map fun entry => counts entry.1 *
    entry.2.receipts.countP fun receipt => receipt.receiverName = name).sum
  rejected := (history.map fun entry => counts entry.1 *
    entry.2.rejections.countP fun rejection => rejection.senderName = name).sum

theorem ofEvents_told {α : Type} (counts : List α → Nat) (history : List (List α × Cascade))
    (name : String) : Tally.ofEvents (told counts history) name = tallyOf counts history name := by
  simp only [Tally.ofEvents, tallyOf, Cascade.publications, Cascade.receipts, Cascade.rejections,
    List.countP_filterMap, countP_told]

/-- On a bus that is used in any way, the observer that subscribes behind `before` is told the
events of the cascades that are returned from then on, in order, and no others; to learn this, each
observer may note what it is told. And whoever else subscribes, a console has printed the line of
each event as often in a row, and statistics have counted it as often, as they had subscribed when
its cascade was published. -/
theorem subscribers_see_cascades (bus : Bus) :
    (∀ {σ : Type} (start : σ) (before after : List (Operation (σ → Event → σ)))
      (observer : σ → Event → σ),
      let operations := before ++ .subscribe observer :: after
      let number := (Operation.subscribers before).length
      let session := performAll (fun _ observer => observer) ⟨{ bus }, start, []⟩ operations
      let earlier := performAll (fun _ observer => observer) ⟨{ bus }, start, []⟩ before
      let watched := performAll noted ⟨{ bus }, (start, []), []⟩ operations
      watched.cascades = session.cascades ∧ watched.state.1 = session.state ∧
        notes number watched.state =
          (session.cascades.drop earlier.cascades.length).flatMap Cascade.events) ∧
    (∀ {τ : Type} (text : String) (others : τ)
      (operations : List (Operation (Subscriber τ))),
      let history := history bus [] operations
      let session := performAll (fun _ => Subscriber.observer)
        ⟨{ bus }, ({ console := { written := text } }, others), []⟩ operations
      session.cascades = history.map Prod.snd ∧
        session.state.1.console.written = text ++
          String.join (history.flatMap fun entry => entry.2.events.flatMap fun event =>
            List.replicate (entry.1.countP Subscriber.isConsole) (event.traceLine ++ "\n")) ∧
        ∃ names : List String,
          names.Pairwise (· < ·) ∧
          (∀ name, name ∈ names ↔ ∃ entry, entry ∈ history ∧
            0 < entry.1.countP Subscriber.isStatistics ∧
            ∃ event, event ∈ entry.2.events ∧ event.moduleName = name) ∧
          session.state.1.statistics.entries = names.map fun name =>
            (name, tallyOf (List.countP Subscriber.isStatistics) history name)) := by
  constructor
  · intro σ start before after observer operations number session earlier watched
    have returned : session.cascades = (history bus [] operations).map Prod.snd :=
      cascades_performAll _ bus start operations
    have published : earlier.cascades.length = (history bus [] before).length := by
      rw [cascades_performAll, List.length_map]
    refine ⟨?_, fst_performAll_noted bus start operations, ?_⟩
    · rw [cascades_performAll, returned]
    · rw [notes_subscription, returned, published]
  · intro τ text others operations history session
    have console := view_subscribers (fun state => state.1.console) Console.report
      Subscriber.isConsole (by rintro (_ | _ | _) _ _ <;> rfl) bus
      ({ console := { written := text } }, others) operations
    have statistics := view_subscribers (fun state => state.1.statistics) Statistics.count
      Subscriber.isStatistics (by rintro (_ | _ | _) _ _ <;> rfl) bus
      ({ console := { written := text } }, others) operations
    refine ⟨cascades_performAll _ bus _ operations, ?_, ?_⟩
    · rw [console, Console.foldl_report, Console.written_write rfl]
      simp [told, List.map_flatMap, history, Trace.eventText]
    · refine ⟨Statistics.names (told (List.countP Subscriber.isStatistics) history),
        Statistics.sorted_names _, fun name => ?_, ?_⟩
      · simp only [Statistics.mem_names_iff, mem_told_iff]
        constructor
        · rintro ⟨event, ⟨entry, member, inside, subscribed⟩, named⟩
          exact ⟨entry, member, subscribed, event, inside, named⟩
        · rintro ⟨entry, member, subscribed, event, inside, named⟩
          exact ⟨event, ⟨entry, member, inside, subscribed⟩, named⟩
      · rw [statistics, Statistics.entries_foldl_count, Statistics.entriesOf]
        simp only [ofEvents_told]
        rfl

end Session

end GatewaySim
