import GatewaySim.Proofs.Json.Numerals
import GatewaySim.Report.Record
import Mathlib

/-! # Names of record files

The name of a record begins with the number of its run, up to the first dash, and holds no slash. So
records of different numbers have different names, whatever their scenarios are called
(`recordName_inj`).
-/

namespace GatewaySim.Scenario

theorem isAlphanum_toLower {c : Char} (kept : c.isAlphanum) : c.toLower.isAlphanum := by
  unfold Char.isAlphanum at kept ⊢
  rw [Char.isAlpha_toLower_eq_isAlpha]
  by_cases upper : c.isUpper
  · simp [Char.isAlpha, upper]
  · rwa [Char.toLower_eq_of_not_isUpper upper]

/-- The characters of a slug are letters, digits and dashes. -/
theorem isAlphanum_or_dash_of_mem_slugFrom {started gap : Bool} {text : List Char} {c : Char}
    (member : c ∈ slugFrom started gap text) : c.isAlphanum ∨ c = '-' := by
  induction text generalizing started gap with
  | nil => cases member
  | cons first rest ih =>
    by_cases kept : isSlugChar first
    · have lowered := isAlphanum_toLower kept
      simp only [slugFrom, kept, if_true] at member
      split at member
      · rcases List.mem_cons.mp member with rfl | member
        · exact .inr rfl
        · rcases List.mem_cons.mp member with rfl | behind
          · exact .inl lowered
          · exact ih behind
      · rcases List.mem_cons.mp member with rfl | behind
        · exact .inl lowered
        · exact ih behind
    · simp only [slugFrom, kept] at member
      exact ih member

theorem toList_recordName (scenario : Scenario) (number : Nat) :
    (scenario.recordName number).toList =
      Nat.toDigits 10 number ++ '-' :: (scenario.slug.toList ++ ".json".toList) := by
  simp [recordName, Nat.toList_repr]

/-- The characters of a record name are letters, digits, dashes and dots. -/
theorem isAlphanum_or_mark_of_mem_recordName {scenario : Scenario} {number : Nat} {c : Char}
    (member : c ∈ (scenario.recordName number).toList) : c.isAlphanum ∨ c = '-' ∨ c = '.' := by
  rw [toList_recordName, List.mem_append, List.mem_cons, List.mem_append] at member
  rcases member with digit | rfl | letter | ending
  · have digit := Nat.isDigit_of_mem_toDigits (by decide) (by decide) digit
    exact .inl (by rw [Char.isAlphanum, digit, Bool.or_true])
  · exact .inr (.inl rfl)
  · rw [slug, slugOf, String.toList_ofList] at letter
    rcases isAlphanum_or_dash_of_mem_slugFrom letter with kept | dash
    · exact .inl kept
    · exact .inr (.inl dash)
  · have letters : c ∈ ['.', 'j', 's', 'o', 'n'] := ending
    fin_cases letters <;> decide

theorem slash_notMem_recordName (scenario : Scenario) (number : Nat) :
    '/' ∉ (scenario.recordName number).toList :=
  fun member => absurd (isAlphanum_or_mark_of_mem_recordName member) (by decide)

/-- A record name is a proper file name. -/
theorem recordName_proper (scenario : Scenario) (number : Nat) :
    scenario.recordName number ∉ ["", ".", ".."] := by
  have dash : '-' ∈ (scenario.recordName number).toList := by simp [toList_recordName]
  intro member
  simp only [List.mem_cons, List.not_mem_nil, or_false] at member
  rcases member with same | same | same <;>
    · rw [same] at dash
      exact absurd dash (by decide)

/-- The name of a record gives away its number and the slug of its scenario. -/
theorem recordName_inj {scenario other : Scenario} {m n : Nat}
    (same : scenario.recordName m = other.recordName n) : m = n ∧ scenario.slug = other.slug := by
  have letters := congrArg String.toList same
  rw [toList_recordName, toList_recordName] at letters
  obtain ⟨number, rest⟩ :=
    Json.toDigits_append_inj (Json.noDigit_cons rfl _) (Json.noDigit_cons rfl _) letters
  exact ⟨number,
    String.toList_injective (List.append_cancel_right (List.tail_eq_of_cons_eq rest))⟩

end GatewaySim.Scenario
