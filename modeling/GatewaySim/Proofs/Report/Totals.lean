import GatewaySim.Proofs.Report.Counting
import Mathlib.Data.List.Induction
import Mathlib.Logic.Function.Basic

/-! # What statistics amount to

Statistics are built event by event, in a list that is kept in order. Whatever the events are, they
come to one entry for each name that occurs, in strictly increasing order, with the numbers of its
publications, receipts and rejections (`entries_foldl_count`).
-/

namespace GatewaySim

def Tally.ofEvents (events : List Event) (name : String) : Tally where
  published := (events.filterMap Event.publication?).countP fun p => p.senderName = name
  received := (events.filterMap Event.receipt?).countP fun r => r.receiverName = name
  rejected := (events.filterMap Event.rejection?).countP fun r => r.senderName = name

theorem Tally.ofEvents_concat (events : List Event) (event : Event) :
    ofEvents (events ++ [event]) =
      Function.update (ofEvents events) event.moduleName
        ((ofEvents events event.moduleName).count event) := by
  funext name
  by_cases same : name = event.moduleName
  · subst same
    rw [Function.update_self]
    cases event <;>
      simp [ofEvents, count, Event.moduleName, Event.publication?, Event.receipt?,
        Event.rejection?]
  · have other := Ne.symm same
    rw [Function.update_of_ne same]
    cases event <;>
      simp_all [ofEvents, Event.moduleName, Event.publication?, Event.receipt?, Event.rejection?]

theorem Tally.ofEvents_of_absent {events : List Event} {name : String}
    (absent : ∀ event, event ∈ events → event.moduleName ≠ name) :
    ofEvents events name = {} := by
  induction events using List.reverseRecOn with
  | nil => rfl
  | append_singleton events event ih =>
    rw [List.forall_mem_append, List.forall_mem_singleton] at absent
    rw [ofEvents_concat, Function.update_of_ne (Ne.symm absent.2), ih absent.1]

namespace Statistics

/-! ## Names in order -/

def insertName (name : String) : List String → List String
  | [] => [name]
  | other :: rest =>
    if name = other then other :: rest
    else if name < other then name :: other :: rest
    else other :: insertName name rest

def names (events : List Event) : List String :=
  events.foldl (fun names event => insertName event.moduleName names) []

theorem mem_insertName_iff {name other : String} {names : List String} :
    other ∈ insertName name names ↔ other = name ∨ other ∈ names := by
  induction names with
  | nil => simp [insertName]
  | cons first rest ih =>
    unfold insertName
    split
    next same => simp [same]
    next =>
      split
      · simp
      · rw [List.mem_cons, ih, List.mem_cons, or_left_comm]

theorem sorted_insertName {name : String} {names : List String}
    (sorted : names.Pairwise (· < ·)) : (insertName name names).Pairwise (· < ·) := by
  induction names with
  | nil => exact List.pairwise_singleton ..
  | cons first rest ih =>
    obtain ⟨least, sortedRest⟩ := List.pairwise_cons.mp sorted
    unfold insertName
    split
    next => exact sorted
    next different =>
      split
      next before =>
        refine List.pairwise_cons.mpr ⟨fun other member => ?_, sorted⟩
        rcases List.mem_cons.mp member with rfl | behind
        · exact before
        · exact before.trans (least other behind)
      next notBefore =>
        refine List.pairwise_cons.mpr ⟨fun other member => ?_, ih sortedRest⟩
        rcases mem_insertName_iff.mp member with rfl | behind
        · exact lt_of_le_of_ne (not_lt.mp notBefore) (Ne.symm different)
        · exact least other behind

theorem names_concat (events : List Event) (event : Event) :
    names (events ++ [event]) = insertName event.moduleName (names events) := by
  simp [names]

theorem mem_names_iff {events : List Event} {name : String} :
    name ∈ names events ↔ ∃ event, event ∈ events ∧ event.moduleName = name := by
  induction events using List.reverseRecOn with
  | nil => simp [names]
  | append_singleton events event ih =>
    rw [names_concat, mem_insertName_iff, ih]
    simp [or_and_right, exists_or, eq_comm, or_comm]

theorem sorted_names (events : List Event) : (names events).Pairwise (· < ·) := by
  induction events using List.reverseRecOn with
  | nil => exact .nil
  | append_singleton events event ih =>
    rw [names_concat]
    exact sorted_insertName ih

/-! ## Entries -/

def entriesOf (tallies : String → Tally) (names : List String) : List (String × Tally) :=
  names.map fun name => (name, tallies name)

theorem entriesOf_cons (tallies : String → Tally) (name : String) (rest : List String) :
    entriesOf tallies (name :: rest) = (name, tallies name) :: entriesOf tallies rest := rfl

theorem entriesOf_update_of_notMem {name : String} {names : List String} (absent : name ∉ names)
    (tallies : String → Tally) (tally : Tally) :
    entriesOf (Function.update tallies name tally) names = entriesOf tallies names := by
  refine List.map_congr_left fun other member => ?_
  have apart : other ≠ name := fun same => absent (same ▸ member)
  rw [Function.update_of_ne apart]

/-- Counting under a name changes the tally of that name only, and makes an entry for it if there is
none. -/
theorem countIn_entriesOf {names : List String} {name : String} {tallies : String → Tally}
    (sorted : names.Pairwise (· < ·)) (fresh : name ∉ names → tallies name = {})
    (event : Event) :
    countIn name event (entriesOf tallies names) =
      entriesOf (Function.update tallies name ((tallies name).count event))
        (insertName name names) := by
  induction names with
  | nil =>
    rw [insertName, entriesOf, entriesOf, List.map_singleton, Function.update_self,
      fresh List.not_mem_nil]
    rfl
  | cons first rest ih =>
    obtain ⟨least, sortedRest⟩ := List.pairwise_cons.mp sorted
    rcases lt_trichotomy name first with before | rfl | behind
    · -- a new name, for the list is in order
      have absent : name ∉ first :: rest := by
        intro member
        rcases List.mem_cons.mp member with same | later
        · exact absurd before (same ▸ lt_irrefl name)
        · exact absurd (before.trans (least name later)) (lt_irrefl name)
      rw [insertName, if_neg (ne_of_lt before), if_pos before, entriesOf_cons _ name,
        entriesOf_update_of_notMem absent, Function.update_self, fresh absent, entriesOf_cons,
        countIn_cons_of_lt before]
    · have absent : name ∉ rest := fun member => absurd (least name member) (lt_irrefl name)
      rw [insertName, if_pos rfl, entriesOf_cons, entriesOf_cons, countIn_cons_self,
        entriesOf_update_of_notMem absent, Function.update_self]
    · have apart : first ≠ name := ne_of_lt behind
      have freshBehind : name ∉ rest → tallies name = {} := by
        intro absent
        refine fresh fun member => ?_
        rcases List.mem_cons.mp member with same | later
        · exact apart same.symm
        · exact absent later
      rw [insertName, if_neg (Ne.symm apart), if_neg (lt_asymm behind), entriesOf_cons,
        entriesOf_cons, countIn_cons_of_gt behind, ih sortedRest freshBehind,
        Function.update_of_ne apart]

theorem entries_foldl_count (events : List Event) :
    (events.foldl count {}).entries = entriesOf (Tally.ofEvents events) (names events) := by
  induction events using List.reverseRecOn with
  | nil => rfl
  | append_singleton events event ih =>
    have fresh : event.moduleName ∉ names events →
        Tally.ofEvents events event.moduleName = {} := by
      intro absent
      apply Tally.ofEvents_of_absent
      intro other member same
      exact absent (mem_names_iff.mpr ⟨other, member, same⟩)
    rw [List.foldl_concat, count, ih, countIn_entriesOf (sorted_names events) fresh, names_concat,
      Tally.ofEvents_concat]

end Statistics

end GatewaySim
