import GatewaySim.Proofs.Bus.Segments
import Mathlib.Algebra.BigOperators.Group.Finset.Basic
import Mathlib.Algebra.Order.BigOperators.Group.Finset
import Mathlib.Algebra.Order.BigOperators.Group.List
import Mathlib.Logic.Relation

/-! # How large a cascade gets

The queue may grow in every round of the loop that serves it, and nothing bounds how many messages
one message gives rise to; still no run of the loop goes on forever, because all that joins the
queue lies one hop further. If the modules together republish at most `r` messages for each message,
every level is at most `r` times as large as the one above, which bounds the whole cascade
(`publish_bounded`).
-/

namespace GatewaySim

/-- A loop that serves a queue: what it has shown so far, how often it has published, and what
waits. -/
structure Loop where
  events : List Event := []
  index : Nat := 0
  queue : List Pending

namespace Bus

/-! ## The loop -/

inductive Round (bus : Bus) : Loop → Loop → Prop where
  | serve (events : List Event) (index : Nat) (pending : Pending) (rest : List Pending) :
    Round bus ⟨events, index, pending :: rest⟩
      ⟨events ++ bus.segment index pending, index + 1, rest ++ bus.derived pending⟩

theorem Round.outstanding_lt {bus : Bus} {loop next : Loop} (round : bus.Round loop next) :
    bus.outstanding next.queue < bus.outstanding loop.queue := by
  cases round with
  | serve events index pending rest => exact outstanding_served bus pending rest

/-- No run of the loop goes on forever, wherever it starts. -/
theorem round_wellFounded (bus : Bus) :
    WellFounded fun next loop : Loop => bus.Round loop next :=
  Subrelation.wf Round.outstanding_lt (measure fun loop : Loop => bus.outstanding loop.queue).wf

/-- The loop serves its queue until nothing waits, one publication in each round. -/
theorem rounds_dispatch (bus : Bus) (events : List Event) (index : Nat) (queue : List Pending) :
    Relation.ReflTransGen bus.Round ⟨events, index, queue⟩
      ⟨events ++ bus.dispatch index queue,
        index + ((bus.dispatch index queue).filterMap Event.publication?).length, []⟩ := by
  induction index, queue using dispatch.induct bus generalizing events with
  | case1 index => simpa using Relation.ReflTransGen.refl
  | case2 index pending rest ih =>
    have first : bus.Round ⟨events, index, pending :: rest⟩ _ := .serve events index pending rest
    have all := Relation.ReflTransGen.head first (ih (events ++ bus.segment index pending))
    rw [dispatch_cons, List.filterMap_append, segment_publications]
    simpa [Nat.add_assoc, Nat.add_comm] using all

/-! ## Levels -/

/-- All that the modules on a bus make of a message, whoever sends it. -/
def derivations (bus : Bus) (message : Message) : List Message :=
  bus.modules.flatMap fun module => (module.receive message).filterMap Reaction.republish

theorem length_children_le (bus : Bus) (sender : ModuleId) (message : Message) :
    (bus.children sender message).length ≤ (bus.derivations message).length := by
  have numbered : bus.derivations message =
      bus.modules.zipIdx.flatMap fun entry =>
        (entry.1.receive message).filterMap Reaction.republish := by
    rw [derivations, ← List.zipIdx_map_fst 0 bus.modules, List.flatMap_map]
    simp
  rw [numbered, children, List.length_flatMap, List.length_flatMap]
  apply List.sum_le_sum
  rintro ⟨module, id⟩ _
  dsimp only
  split
  · exact Nat.zero_le _
  · rw [← List.map_filterMap, List.length_map]

theorem length_level_le {bus : Bus} {most : Nat}
    (bounded : ∀ message, (bus.derivations message).length ≤ most) (sender : ModuleId)
    (seed : Message) (depth : Nat) : (bus.level sender seed depth).length ≤ most ^ depth := by
  induction depth with
  | zero => simp
  | succ depth ih =>
    have each : ∀ count,
        count ∈ (bus.level sender seed depth).map (fun entry =>
          (bus.children entry.1 entry.2).length) → count ≤ most := by
      rw [List.forall_mem_map]
      exact fun entry _ => Nat.le_trans (bus.length_children_le entry.1 entry.2) (bounded entry.2)
    calc (bus.level sender seed (depth + 1)).length
      _ = ((bus.level sender seed depth).map fun entry =>
            (bus.children entry.1 entry.2).length).sum := by
        rw [level_succ, List.length_flatMap]
      _ ≤ (bus.level sender seed depth).length * most := by
        simpa using List.sum_le_card_nsmul _ most each
      _ ≤ most ^ depth * most := Nat.mul_le_mul_right most ih
      _ = most ^ (depth + 1) := (Nat.pow_succ ..).symm

theorem length_flatMap_range {α : Type} (f : Nat → List α) (count : Nat) :
    ((List.range count).flatMap f).length = ∑ place ∈ Finset.range count, (f place).length := by
  induction count with
  | zero => rfl
  | succ count ih =>
    rw [List.range_succ, List.flatMap_append, List.length_append, ih, Finset.sum_range_succ,
      List.flatMap_singleton]

/-! ## The whole cascade -/

theorem length_publish_publications (bus : Bus) (sender : ModuleId) (seed : Message) :
    (bus.publish sender seed).publications.length =
      ∑ depth ∈ Finset.range (bus.hopLimit.toNat + 1), (bus.level sender seed depth).length := by
  rw [publish_publications, List.length_map, List.length_zipIdx, served, length_flatMap_range]
  simp only [waiting, List.length_map]

/-- The loop that publishes a seed ends after as many rounds as it publishes messages, and what it
has then shown is the cascade. If the modules together republish at most `most` messages for each
message, there are at most that many to the power of the hop for each hop, and at most that many to
the next power are rejected. -/
theorem publish_bounded (bus : Bus) (sender : ModuleId) (seed : Message) :
    let cascade := bus.publish sender seed
    let limit := bus.hopLimit.toNat
    (WellFounded fun next loop : Loop => bus.Round loop next) ∧
      Relation.ReflTransGen bus.Round ⟨[], 0, [⟨sender, seed, 0⟩]⟩
        ⟨cascade.events, cascade.publications.length, []⟩ ∧
      ∀ most : Nat, (∀ message, (bus.derivations message).length ≤ most) →
        cascade.publications.length ≤ ∑ hop ∈ Finset.range (limit + 1), most ^ hop ∧
          cascade.rejections.length ≤ most ^ (limit + 1) := by
  intro cascade limit
  have rounds := bus.rounds_dispatch [] 0 [⟨sender, seed, 0⟩]
  rw [List.nil_append, Nat.zero_add] at rounds
  refine ⟨bus.round_wellFounded, rounds, fun most bounded => ⟨?_, ?_⟩⟩
  · rw [length_publish_publications]
    exact Finset.sum_le_sum fun depth _ => length_level_le bounded sender seed depth
  · rw [publish_rejections, List.length_map]
    exact length_level_le bounded sender seed (limit + 1)

/-- Two modules that answer each other with two messages for each one reach the bounds. -/
theorem publish_bounded_reached :
    let asking : Module :=
      { name := "a"
        receive := fun m => if m.has .src then [.derive "x" .empty, .derive "y" .empty] else [] }
    let answering : Module :=
      { name := "b"
        receive := fun m =>
          if m.has .src then [] else [.derive "x" { src := "x" }, .derive "y" { src := "y" }] }
    let bus : Bus := { modules := [asking, answering], hopLimit := 2 }
    let cascade := bus.publish 1 { src := "z" }
    (∀ message, (bus.derivations message).length ≤ 2) ∧
      cascade.publications.length = 1 + 2 + 4 ∧ cascade.rejections.length = 8 ∧
      cascade.publications.length ≤ ∑ hop ∈ Finset.range 3, 2 ^ hop ∧
      cascade.rejections.length ≤ 2 ^ 3 := by
  intro asking answering bus cascade
  have two : ∀ message, (bus.derivations message).length ≤ 2 := by
    intro message
    by_cases known : message.has .src <;>
      simp [bus, derivations, asking, answering, known, Reaction.derive]
  obtain ⟨_, _, bounds⟩ := bus.publish_bounded 1 { src := "z" }
  obtain ⟨publications, rejections⟩ := bounds 2 two
  refine ⟨two, ?_, ?_, publications, rejections⟩
  · rw [publish_publications]
    rfl
  · rw [publish_rejections]
    rfl

end Bus

end GatewaySim
