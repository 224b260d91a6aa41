import GatewaySim.Report.Statistics
import Mathlib.Data.String.Basic

/-! # Counting in any order

Statistics say how often, not when: two lists of events that differ only in their order are
counted alike (`foldl_count_perm`).
-/

namespace GatewaySim

theorem Tally.count_comm (tally : Tally) (first second : Event) :
    (tally.count first).count second = (tally.count second).count first := by
  cases first <;> cases second <;> rfl

namespace Statistics

variable {name other : String} {event : Event} {tally : Tally} {rest : List (String × Tally)}

/-- Of an event, only its kind is counted. -/
theorem countIn_congr {event other : Event}
    (same : ∀ tally : Tally, tally.count event = tally.count other) (name : String)
    (entries : List (String × Tally)) :
    countIn name event entries = countIn name other entries := by
  induction entries with
  | nil => simp only [countIn, same]
  | cons entry rest ih => simp only [countIn, same, ih]

theorem count_congr {event other : Event} (name : event.moduleName = other.moduleName)
    (kind : ∀ tally : Tally, tally.count event = tally.count other)
    (statistics : Statistics) : statistics.count event = statistics.count other := by
  simp only [count, name, countIn_congr kind]

theorem countIn_cons_of_lt (lt : name < other) :
    countIn name event ((other, tally) :: rest) =
      (name, ({} : Tally).count event) :: (other, tally) :: rest := by
  rw [countIn, if_neg (ne_of_lt lt), if_pos lt]

theorem countIn_cons_self :
    countIn name event ((name, tally) :: rest) = (name, tally.count event) :: rest := by
  rw [countIn, if_pos rfl]

theorem countIn_cons_of_gt (gt : other < name) :
    countIn name event ((other, tally) :: rest) =
      (other, tally) :: countIn name event rest := by
  rw [countIn, if_neg (ne_of_gt gt), if_neg (not_lt_of_gt gt)]

/-- Two names find their places whichever of them is counted first. -/
theorem countIn_comm_of_lt {low high : String} (lt : low < high) (first second : Event)
    (entries : List (String × Tally)) :
    countIn high second (countIn low first entries) =
      countIn low first (countIn high second entries) := by
  induction entries with
  | nil =>
    have empty (name : String) (event : Event) :
        countIn name event [] = [(name, ({} : Tally).count event)] := rfl
    rw [empty, empty, countIn_cons_of_gt lt, countIn_cons_of_lt lt, empty]
  | cons entry rest ih =>
    obtain ⟨name, tally⟩ := entry
    rcases lt_trichotomy name low with before | rfl | behind
    · have beforeHigh := before.trans lt
      rw [countIn_cons_of_gt before, countIn_cons_of_gt beforeHigh, ih,
        countIn_cons_of_gt beforeHigh, countIn_cons_of_gt before]
    · rw [countIn_cons_self, countIn_cons_of_gt lt, countIn_cons_of_gt lt, countIn_cons_self]
    · rw [countIn_cons_of_lt behind, countIn_cons_of_gt lt]
      rcases lt_trichotomy name high with between | rfl | above
      · rw [countIn_cons_of_gt between, countIn_cons_of_lt behind]
      · rw [countIn_cons_self, countIn_cons_of_lt behind]
      · rw [countIn_cons_of_lt above, countIn_cons_of_lt lt]

theorem countIn_comm_self (name : String) (first second : Event)
    (entries : List (String × Tally)) :
    countIn name second (countIn name first entries) =
      countIn name first (countIn name second entries) := by
  induction entries with
  | nil => simp [countIn, Tally.count_comm]
  | cons entry rest ih =>
    obtain ⟨other, tally⟩ := entry
    rcases lt_trichotomy other name with before | rfl | behind
    · simp only [countIn_cons_of_gt before, ih]
    · simp only [countIn_cons_self, Tally.count_comm]
    · simp only [countIn_cons_of_lt behind, countIn_cons_self, Tally.count_comm]

theorem count_comm (statistics : Statistics) (first second : Event) :
    (statistics.count first).count second = (statistics.count second).count first := by
  simp only [count]
  congr 1
  rcases lt_trichotomy first.moduleName second.moduleName with lt | same | gt
  · exact countIn_comm_of_lt lt first second _
  · rw [same]
    exact countIn_comm_self _ first second _
  · exact (countIn_comm_of_lt gt second first _).symm

theorem foldl_count_perm {events others : List Event} (perm : events.Perm others)
    (statistics : Statistics) :
    events.foldl count statistics = others.foldl count statistics :=
  perm.foldl_eq' (fun first _ second _ current => count_comm current first second) statistics

end Statistics

end GatewaySim
