import GatewaySim.Proofs.Report.RecordNames
import Mathlib

/-! # Slugs

The words of a name are its maximal runs of letters and digits, in lower case, and its slug is these
words with single dashes between them (`toList_slugOf`). Since words are not empty and hold no dash,
a slug is split at its dashes into its words again; that is why dashes never stand at an end of a
slug or next to each other, and why a slug is its own slug (`slug_canonical`).
-/

namespace GatewaySim.Scenario

/-- The maximal runs of characters that stay in a slug. -/
def runs (text : List Char) : List (List Char) :=
  (text.splitOnP fun c => !isSlugChar c).filter fun run => !run.isEmpty

/-- The words of a text: its runs in lower case. -/
def words (text : List Char) : List (List Char) :=
  (runs text).map fun run => run.map Char.toLower

def IsWord (word : List Char) : Prop := word ≠ [] ∧ ∀ c, c ∈ word → c.isLower ∨ c.isDigit

def joined (words : List (List Char)) : List Char := ['-'].intercalate words

theorem joined_cons_cons (word other : List Char) (rest : List (List Char)) :
    joined (word :: other :: rest) = word ++ '-' :: joined (other :: rest) := by
  rw [joined, List.intercalate_cons_cons, List.append_assoc]
  rfl

/-! ## Slugs as joined words -/

theorem splitOnP_cons_of_isSlugChar {c : Char} (kept : isSlugChar c) {text run : List Char}
    {others : List (List Char)}
    (parts : text.splitOnP (fun c => !isSlugChar c) = run :: others) :
    (c :: text).splitOnP (fun c => !isSlugChar c) = (c :: run) :: others := by
  rw [List.splitOnP_cons_eq_if_modifyHead, kept, parts]
  rfl

theorem runs_cons_of_not_isSlugChar {c : Char} (dropped : isSlugChar c = false)
    (text : List Char) : runs (c :: text) = runs text := by
  rw [runs, List.splitOnP_cons_eq_if_modifyHead, dropped]
  rfl

/-- What is read behind a kept character: the rest of its run, unless there is a gap, and then every
further word with a dash in front of it. -/
theorem slugFrom_started (text : List Char) :
    (∀ run others, text.splitOnP (fun c => !isSlugChar c) = run :: others →
      slugFrom true false text = run.map Char.toLower ++
        (others.filter fun run => !run.isEmpty).flatMap fun run => '-' :: run.map Char.toLower) ∧
    slugFrom true true text = (runs text).flatMap fun run => '-' :: run.map Char.toLower := by
  induction text with
  | nil =>
    refine ⟨fun run others parts => ?_, rfl⟩
    cases parts
    rfl
  | cons c text ih =>
    obtain ⟨near, far⟩ := ih
    obtain ⟨first, rest, parts⟩ :=
      List.exists_cons_of_ne_nil (List.splitOnP_ne_nil (fun c => !isSlugChar c) text)
    by_cases kept : isSlugChar c
    · have longer := splitOnP_cons_of_isSlugChar kept parts
      have onward := near first rest parts
      constructor
      · intro run others same
        cases longer.symm.trans same
        simp [slugFrom, kept, onward]
      · simp [slugFrom, runs, kept, longer, onward]
    · rw [Bool.not_eq_true] at kept
      constructor
      · intro run others same
        rw [List.splitOnP_cons_eq_if_modifyHead, kept] at same
        cases same
        simpa [slugFrom, kept, runs] using far
      · rw [runs_cons_of_not_isSlugChar kept]
        simpa [slugFrom, kept] using far

theorem joined_cons_eq_flatMap (word : List Char) (rest : List (List Char)) :
    joined (word :: rest) = word ++ rest.flatMap fun other => '-' :: other := by
  induction rest generalizing word with
  | nil => simp [joined]
  | cons other rest ih => rw [joined_cons_cons, ih, List.flatMap_cons, List.cons_append]

theorem slugFrom_eq_joined (gap : Bool) (text : List Char) :
    slugFrom false gap text = joined (words text) := by
  induction text generalizing gap with
  | nil => rfl
  | cons c text ih =>
    by_cases kept : isSlugChar c
    · obtain ⟨first, rest, parts⟩ :=
        List.exists_cons_of_ne_nil (List.splitOnP_ne_nil (fun c => !isSlugChar c) text)
      have onward := (slugFrom_started text).1 first rest parts
      have longer := splitOnP_cons_of_isSlugChar kept parts
      simp [slugFrom, kept, onward, words, runs, longer, joined_cons_eq_flatMap, List.flatMap_map]
    · rw [Bool.not_eq_true] at kept
      rw [words, runs_cons_of_not_isSlugChar kept, ← words]
      simpa [slugFrom, kept] using ih true

theorem toList_slugOf (name : String) : (slugOf name).toList = joined (words name.toList) := by
  rw [slugOf, String.toList_ofList, slugFrom_eq_joined]

/-! ## Words -/

theorem isSlugChar_of_mem_splitOnP {text part : List Char}
    (member : part ∈ text.splitOnP fun c => !isSlugChar c) {c : Char} (inside : c ∈ part) :
    isSlugChar c := by
  induction text generalizing part with
  | nil =>
    rw [List.splitOnP_nil, List.mem_singleton] at member
    rw [member] at inside
    cases inside
  | cons first text ih =>
    obtain ⟨run, others, parts⟩ :=
      List.exists_cons_of_ne_nil (List.splitOnP_ne_nil (fun c => !isSlugChar c) text)
    by_cases kept : isSlugChar first
    · rw [splitOnP_cons_of_isSlugChar kept parts, List.mem_cons] at member
      rw [parts] at ih
      rcases member with rfl | behind
      · rcases List.mem_cons.mp inside with rfl | later
        · exact kept
        · exact ih List.mem_cons_self later
      · exact ih (List.mem_cons_of_mem run behind) inside
    · rw [Bool.not_eq_true] at kept
      rw [List.splitOnP_cons_eq_if_modifyHead, kept] at member
      rcases List.mem_cons.mp member with rfl | behind
      · cases inside
      · exact ih behind inside

theorem isLower_or_isDigit_toLower {c : Char} (kept : isSlugChar c) :
    c.toLower.isLower ∨ c.toLower.isDigit := by
  have letter := isAlphanum_toLower kept
  unfold Char.isAlphanum Char.isAlpha at letter
  rw [Char.isUpper_toLower_eq_false, Bool.false_or] at letter
  simpa using letter

theorem isWord_of_mem_words {text word : List Char} (member : word ∈ words text) :
    IsWord word := by
  obtain ⟨run, there, rfl⟩ := List.mem_map.mp member
  obtain ⟨part, nonempty⟩ := List.mem_filter.mp there
  constructor
  · intro none
    rw [List.map_eq_nil_iff.mp none] at nonempty
    cases nonempty
  · intro c inside
    obtain ⟨origin, before, rfl⟩ := List.mem_map.mp inside
    exact isLower_or_isDigit_toLower (isSlugChar_of_mem_splitOnP part before)

variable {word : List Char} {parts : List (List Char)}

theorem IsWord.isSlugChar (valid : IsWord word) {c : Char} (inside : c ∈ word) :
    isSlugChar c := by
  rcases valid.2 c inside with lower | digit
  · simp [Scenario.isSlugChar, Char.isAlphanum, Char.isAlpha, lower]
  · simp [Scenario.isSlugChar, Char.isAlphanum, digit]

theorem IsWord.dash_notMem (valid : IsWord word) : '-' ∉ word :=
  fun inside => absurd (valid.isSlugChar inside) (by decide)

theorem toLower_of_isLower_or_isDigit {c : Char} (valid : c.isLower ∨ c.isDigit) :
    c.toLower = c := by
  refine Char.toLower_eq_of_not_isUpper ?_
  simp only [Char.isLower, Char.isDigit, Char.isUpper, Bool.and_eq_true, decide_eq_true_eq,
    UInt32.le_iff_toNat_le, ge_iff_le] at valid ⊢
  have a : 'a'.val.toNat = 97 := rfl
  have nine : '9'.val.toNat = 57 := rfl
  have upper : 'A'.val.toNat = 65 ∧ 'Z'.val.toNat = 90 := ⟨rfl, rfl⟩
  omega

theorem IsWord.map_toLower (valid : IsWord word) : word.map Char.toLower = word := by
  conv_rhs => rw [← List.map_id word]
  exact List.map_congr_left fun c inside => toLower_of_isLower_or_isDigit (valid.2 c inside)

/-! ## The shape of a slug -/

theorem mem_joined (each : ∀ word, word ∈ parts → IsWord word) {c : Char}
    (inside : c ∈ joined parts) : c.isLower ∨ c.isDigit ∨ c = '-' := by
  cases parts with
  | nil => cases inside
  | cons word rest =>
    rw [List.forall_mem_cons] at each
    rw [joined_cons_eq_flatMap, List.mem_append, List.mem_flatMap] at inside
    rcases inside with here | ⟨other, there, behind⟩
    · exact or_assoc.mp (.inl (each.1.2 c here))
    · rcases List.mem_cons.mp behind with dash | letter
      · exact .inr (.inr dash)
      · exact or_assoc.mp (.inl ((each.2 other there).2 c letter))

/-- A slug is split at its dashes into its words. -/
theorem nil_notMem_splitOn (each : ∀ word, word ∈ parts → IsWord word)
    (nonempty : joined parts ≠ []) : [] ∉ (joined parts).splitOn '-' := by
  have some : parts ≠ [] := by
    rintro rfl
    exact nonempty rfl
  rw [joined, List.splitOn_intercalate '-' (fun word member => (each word member).dash_notMem) some]
  exact fun member => (each [] member).1 rfl

theorem runs_joined (each : ∀ word, word ∈ parts → IsWord word) :
    runs (joined parts) = parts := by
  have whole : ∀ word, IsWord word → word.isEmpty = false := fun word valid => by
    simpa using valid.1
  have stays : ∀ word, IsWord word → ∀ c, c ∈ word → (!isSlugChar c) = false :=
    fun word valid c inside => by simp [valid.isSlugChar inside]
  induction parts with
  | nil => rfl
  | cons word rest ih =>
    rw [List.forall_mem_cons] at each
    cases rest with
    | nil =>
      rw [joined, List.intercalate_singleton, runs,
        List.splitOnP_eq_singleton (stays word each.1)]
      simp [whole word each.1]
    | cons other rest =>
      have behind := ih each.2
      rw [runs] at behind
      rw [joined_cons_cons, runs,
        List.splitOnP_append_cons_of_forall_mem (stays word each.1) '-' (by decide),
        List.filter_cons_of_pos (by simp [whole word each.1]), behind]

theorem words_joined (each : ∀ word, word ∈ parts → IsWord word) :
    words (joined parts) = parts := by
  rw [words, runs_joined each]
  conv_rhs => rw [← List.map_id parts]
  exact List.map_congr_left fun word member => (each word member).map_toLower

/-! ## Canonical texts -/

/-- Words with single dashes between them, told by their characters. -/
structure IsSlug (text : List Char) : Prop where
  chars : ∀ c, c ∈ text → c.isLower ∨ c.isDigit ∨ c = '-'
  head : text.head? ≠ some '-'
  last : text.getLast? ≠ some '-'
  single : ¬ ['-', '-'] <:+: text

theorem isSlug_joined (each : ∀ word, word ∈ parts → IsWord word) :
    IsSlug (joined parts) := by
  have empty : [] ∈ [].splitOn '-' := List.mem_singleton_self []
  refine ⟨fun c inside => mem_joined each inside, fun head => ?_, fun last => ?_, ?_⟩
  · obtain ⟨rest, found⟩ := List.head?_eq_some_iff.mp head
    have apart := nil_notMem_splitOn each (by simp [found])
    rw [show joined parts = [] ++ '-' :: rest from found, List.splitOn_append_cons_self] at apart
    exact apart (List.mem_append_left _ empty)
  · obtain ⟨front, found⟩ := List.getLast?_eq_some_iff.mp last
    have apart := nil_notMem_splitOn each (by simp [found])
    rw [found, List.splitOn_append_cons_self] at apart
    exact apart (List.mem_append_right _ empty)
  · rintro ⟨front, back, found⟩
    have twice : joined parts = front ++ '-' :: ([] ++ '-' :: back) := by simp [← found]
    have apart := nil_notMem_splitOn each (by simp [twice])
    rw [twice, List.splitOn_append_cons_self, List.splitOn_append_cons_self] at apart
    exact apart (List.mem_append_right _ (List.mem_append_left _ empty))

/-- The slug of a scenario is the words of its name with single dashes between them, and it is its
own slug. So it is made of lower-case letters, digits and dashes, and dashes stand neither at its
ends nor next to each other. The name of a record holds no separator of folders, and it gives away
its number and the slug. -/
theorem slug_canonical (scenario : Scenario) :
    scenario.slug.toList =
        ['-'].intercalate ((runs scenario.name.toList).map fun run => run.map Char.toLower) ∧
      IsSlug scenario.slug.toList ∧
      slugOf scenario.slug = scenario.slug ∧
      (∀ number, '/' ∉ (scenario.recordName number).toList ∧
        '\\' ∉ (scenario.recordName number).toList) ∧
      ∀ (other : Scenario) (m n : Nat),
        scenario.recordName m = other.recordName n ↔ m = n ∧ scenario.slug = other.slug := by
  have each : ∀ word, word ∈ words scenario.name.toList → IsWord word :=
    fun word member => isWord_of_mem_words member
  have slug_eq : scenario.slug.toList = joined (words scenario.name.toList) :=
    toList_slugOf scenario.name
  refine ⟨slug_eq, ?_, ?_, fun number => ⟨?_, ?_⟩, fun other m n => ⟨recordName_inj, ?_⟩⟩
  · rw [slug_eq]
    exact isSlug_joined each
  · refine String.toList_injective ?_
    rw [toList_slugOf, slug_eq, words_joined each]
  · exact slash_notMem_recordName scenario number
  · exact fun member => absurd (isAlphanum_or_mark_of_mem_recordName member) (by decide)
  · rintro ⟨rfl, same⟩
    rw [recordName, recordName, same]

example : slugOf "--IoTHub  D2C path!" = "iothub-d2c-path" := by cbv

end GatewaySim.Scenario
