import GatewaySim.Proofs.Config.Overrides
import GatewaySim.Proofs.Config.Reordering
import Mathlib

/-! # What is found under one root

What a table sets at a root and below it is decided by the entries whose keys lead there
(`getText_under`). Where these are pairwise independent, the order in which they are set does not
matter (`getText_reordered`), and a text is found at the root exactly if the table itself holds it
under that key (`getText_eq_ok_iff_holds`).
-/

namespace GatewaySim.Config

/-- The entries of a table whose keys lead to a root or below it. -/
def Entries.under (entries : Entries) (root : String) : Entries :=
  entries.filter fun entry => (Path.ofKey entry.1).root = root

/-- A table holds a text under a key: a single value that can be turned into it. -/
def Entries.Holds (entries : Entries) (key text : String) : Prop :=
  ∃ value, (key, value) ∈ entries ∧ value.toText = .ok text

variable {entries others : Entries} {key text : String} {value : Value} {part other : Config}

theorem Entries.mem_under {entry : String × Value} :
    entry ∈ entries.under key ↔ entry ∈ entries ∧ (Path.ofKey entry.1).root = key := by
  simp [Entries.under]

/-! ## One root at a time -/

theorem get?_set_root (config : Config) (path : Path) (value : Value) :
    (config.set path value).root.entries.get? path.root =
      some (Value.change value.merge path.steps
        ((config.root.entries.get? path.root).getD .nil)) := by
  rw [set, Value.change_cons, Value.change_key]
  exact (Entries.get?_change ..).trans (if_pos rfl)

theorem get?_setAll_filter {config other : Config} (overrides : Overrides)
    (same : config.root.entries.get? key = other.root.entries.get? key) :
    (config.setAll overrides).root.entries.get? key =
      (other.setAll (overrides.filter fun noted => noted.1.root = key)).root.entries.get? key := by
  induction overrides generalizing config other with
  | nil => exact same
  | cons noted rest ih =>
    by_cases here : noted.1.root = key
    · rw [List.filter_cons_of_pos (by simpa using here), setAll_cons, setAll_cons]
      apply ih
      rw [← here, get?_set_root, get?_set_root, here, same]
    · rw [List.filter_cons_of_neg (by simpa using here), setAll_cons]
      apply ih
      rw [get?_set_of_root_ne here, same]

theorem filter_note (p : Path → Bool) (overrides : Overrides) (path : Path) (value : Value) :
    (overrides.note path value).filter (fun noted => p noted.1) =
      if p path then Overrides.note (overrides.filter fun noted => p noted.1) path value
      else overrides.filter fun noted => p noted.1 := by
  induction overrides with
  | nil => by_cases kept : p path <;> simp [Overrides.note, kept]
  | cons noted rest ih =>
    by_cases same : noted.1 = path
    · by_cases kept : p path <;> simp [Overrides.note, same, kept]
    · by_cases kept : p path <;> by_cases first : p noted.1 <;>
        simp_all [Overrides.note]

theorem filter_noteAll (p : Path → Bool) (overrides : Overrides) (entries : Entries) :
    (overrides.noteAll entries).filter (fun noted => p noted.1) =
      Overrides.noteAll (overrides.filter fun noted => p noted.1)
        (entries.filter fun entry => p (Path.ofKey entry.1)) := by
  induction entries generalizing overrides with
  | nil => rfl
  | cons entry rest ih =>
    rw [Overrides.noteAll, List.foldl_cons, ← Overrides.noteAll, ih, filter_note]
    by_cases kept : p (Path.ofKey entry.1)
    · simp only [List.filter_cons, kept, if_true, Overrides.noteAll, List.foldl_cons]
    · simp only [List.filter_cons, kept, if_false, Bool.false_eq_true]

theorem eq_setAll_of_ofEntries (taken : ofEntries entries = .ok part) :
    entries.ArePaths ∧ part = ({} : Config).setAll (Overrides.noteAll [] entries) := by
  rw [ofEntries_eq] at taken
  split at taken
  next paths => exact ⟨paths, (Except.ok.inj taken).symm⟩
  next => cases taken

theorem getText_congr (identifier : IsIdentifier key)
    (same : part.root.entries.get? key = other.root.entries.get? key) :
    part.getText key = other.getText key := by
  simp only [getText, get, Path.ofText?_of_isIdentifier identifier, value?_root, same]

/-- The text at a root depends on the entries under it only. -/
theorem getText_under (identifier : IsIdentifier key) (taken : ofEntries entries = .ok part) :
    ∃ some, ofEntries (entries.under key) = .ok some ∧ part.getText key = some.getText key := by
  obtain ⟨paths, rfl⟩ := eq_setAll_of_ofEntries taken
  have few : (entries.under key).ArePaths :=
    fun entry member => paths entry (Entries.mem_under.mp member).1
  refine ⟨_, (ofEntries_eq _).trans (if_pos few), getText_congr identifier ?_⟩
  rw [get?_setAll_filter (Overrides.noteAll [] entries) rfl,
    filter_noteAll (fun path => path.root = key)]
  rfl

/-- Independent entries under a root give the same text, in whatever order they are set. -/
theorem getText_reordered (identifier : IsIdentifier key)
    (independent : (entries.under key).Pairwise Independent) (reordered : entries.Perm others)
    (taken : ofEntries entries = .ok part) (retaken : ofEntries others = .ok other) :
    part.getText key = other.getText key := by
  obtain ⟨first, here, text⟩ := getText_under identifier taken
  obtain ⟨second, there, reread⟩ := getText_under identifier retaken
  have perm : (entries.under key).Perm (others.under key) := reordered.filter _
  obtain ⟨made, remade, again, retold, alike⟩ :=
    ofEntries_reordered (eq_setAll_of_ofEntries here).1 independent perm
  obtain rfl : first = made := Except.ok.inj (here.symm.trans again)
  obtain rfl : second = remade := Except.ok.inj (there.symm.trans retold)
  rw [text, reread, alike.text]

/-! ## Texts that a table holds -/

instance : Std.Symm Independent := ⟨fun _ _ => Independent.symm⟩

theorem not_apart_append (steps rest : List Step) : ¬ Apart steps (steps ++ rest) := by
  induction steps with
  | nil => rintro ⟨⟩
  | cons step steps ih =>
    rw [List.cons_append, apart_cons]
    rintro (parting | ⟨_, apart⟩)
    · cases parting with
      | key different | index different => exact different rfl
    · exact ih apart

/-- A value in the place of whatever is there cannot change places with a write below it. -/
theorem Write.not_compatible_below (steps : List Step) (value : Value) (step : Step)
    (rest : List Step) (content : Content) :
    ¬ Compatible ⟨steps, .leaf value⟩ ⟨steps ++ step :: rest, content⟩ := by
  generalize first : (⟨steps, .leaf value⟩ : Write) = write
  generalize second : (⟨steps ++ step :: rest, content⟩ : Write) = below
  intro compatible
  cases compatible with
  | same =>
    have longer := congrArg (fun write => write.steps.length) (first.trans second.symm)
    simp at longer
  | apart apart =>
    subst first second
    exact not_apart_append steps (step :: rest) apart
  | above => cases first
  | below =>
    cases first
    have longer := congrArg (fun write => write.steps.length) second
    simp at longer

theorem merge_of_ne_table (single : ∀ origin entries, value ≠ .table origin entries)
    (under : Value) : value.merge under = value := by
  cases value with
  | scalar | array => simp [Value.merge]
  | table origin entries => exact absurd rfl (single origin entries)

/-- Of independent entries under a root, one that sets a single value or an array there is the only
one. -/
theorem eq_of_independent (independent : (entries.under key).Pairwise Independent)
    (identifier : IsIdentifier key) (member : (key, value) ∈ entries)
    (single : ∀ origin entries, value ≠ .table origin entries) {entry : String × Value}
    (there : entry ∈ entries.under key) : entry = (key, value) := by
  by_contra different
  have denoted := Path.ofKey_of_isIdentifier identifier
  have here : (key, value) ∈ entries.under key :=
    Entries.mem_under.mpr ⟨member, congrArg Path.root denoted⟩
  obtain ⟨paths, writes⟩ := independent.forall here there (Ne.symm different)
  rw [denoted] at paths
  have leaf : ⟨[.key key], .leaf value⟩ ∈ entryWrites (key, value) := by
    cases value with
    | scalar | array => simp [entryWrites, Value.writes, denoted, Path.walk, Write.within]
    | table origin entries => exact absurd rfl (single origin entries)
  obtain ⟨write, made⟩ := List.exists_mem_of_ne_nil _ entry.2.writes_ne_nil
  have below := writes _ leaf _ (List.mem_map_of_mem made)
  -- another entry under the root is set strictly below it
  cases path : Path.ofKey entry.1 with
  | mk root steps =>
    have root_eq : root = key := by simpa [path] using (Entries.mem_under.mp there).2
    subst root_eq
    cases steps with
    | nil => exact paths path.symm
    | cons step steps =>
      rw [path] at below
      exact Write.not_compatible_below [.key root] value step (steps ++ write.steps) write.content
        below

theorem exists_mergeEntries_eq_table (entries : Entries) (origin : Option Origin)
    (before : Entries) :
    ∃ after, Value.mergeEntries entries (.table origin before) = .table origin after := by
  induction entries generalizing before with
  | nil => exact ⟨before, by rw [Value.mergeEntries]⟩
  | cons entry rest ih =>
    obtain ⟨key, value⟩ := entry
    rw [Value.mergeEntries, Value.change]
    exact ih _

/-- A single value at the end of some steps is there because it has been set right there. -/
theorem eq_of_change_merge_eq_scalar {steps : List Step} {under : Value} {origin : Option Origin}
    {content : Scalar} (found : Value.change value.merge steps under = .scalar origin content) :
    steps = [] ∧ value = .scalar origin content := by
  cases steps with
  | nil =>
    rw [Value.change_nil] at found
    cases value with
    | scalar | array => simp_all [Value.merge]
    | table place entries =>
      rw [Value.merge] at found
      cases under with
      | table place before =>
        obtain ⟨after, merged⟩ := exists_mergeEntries_eq_table entries place before
        cases merged.symm.trans found
      | scalar | array =>
        obtain ⟨after, merged⟩ := exists_mergeEntries_eq_table entries none []
        cases merged.symm.trans found
  | cons step steps =>
    cases step <;> cases under <;> simp [Value.change] at found

theorem mem_of_get?_setAll_eq_scalar {overrides : Overrides} {config : Config}
    {origin : Option Origin} {content : Scalar}
    (found : (config.setAll overrides).root.entries.get? key = some (.scalar origin content)) :
    (⟨key, []⟩, .scalar origin content) ∈ overrides ∨
      config.root.entries.get? key = some (.scalar origin content) := by
  induction overrides generalizing config with
  | nil => exact .inr found
  | cons noted rest ih =>
    obtain ⟨⟨root, steps⟩, value⟩ := noted
    rcases ih found with behind | set
    · exact .inl (List.mem_cons_of_mem _ behind)
    · by_cases here : root = key
      · subst here
        have changed := (get?_set_root config ⟨root, steps⟩ value).symm.trans set
        obtain ⟨rfl, rfl⟩ := eq_of_change_merge_eq_scalar (Option.some.inj changed)
        exact .inl List.mem_cons_self
      · rw [get?_set_of_root_ne here] at set
        exact .inr set

theorem Path.eq_nil_of_readSteps {text : List Char} (none : readSteps text = some []) :
    text = [] := by
  rw [readSteps.eq_def] at none
  split at none
  · rfl
  · split at none <;> simp at none
  · split at none <;> simp at none
  · cases none

/-- A path of one key is written in one way. -/
theorem Path.eq_of_ofText?_eq_root {text root : String} (denoted : ofText? text = some ⟨root, []⟩) :
    text = root := by
  unfold ofText? at denoted
  cases read : readKey text.toList with
  | none => simp [read] at denoted
  | some found =>
    obtain ⟨key, rest⟩ := found
    simp only [read, Option.map_eq_some_iff, Path.mk.injEq] at denoted
    obtain ⟨steps, behind, rfl, rfl⟩ := denoted
    obtain rfl := eq_nil_of_readSteps behind
    unfold readKey at read
    dsimp only at read
    split at read
    · cases read
    · simp only [Option.some.injEq, Prod.mk.injEq] at read
      have whole := List.takeWhile_append_dropWhile (p := isKeyChar) (l := text.toList)
      rw [read.2, List.append_nil] at whole
      rw [← read.1, whole, String.ofList_toList]

theorem Value.eq_scalar_of_toText (converted : value.toText = .ok text) :
    ∃ origin content, value = .scalar origin content := by
  cases value with
  | scalar origin content => exact ⟨origin, content, rfl⟩
  | array | table => cases converted

/-- A text is found at a root exactly if the table holds it under that key, as long as the entries
under the root are independent. -/
theorem getText_eq_ok_iff_holds (identifier : IsIdentifier key)
    (independent : (entries.under key).Pairwise Independent)
    (taken : ofEntries entries = .ok part) :
    part.getText key = .ok text ↔ entries.Holds key text := by
  obtain ⟨paths, made⟩ := eq_setAll_of_ofEntries taken
  constructor
  · intro read
    cases found : part.value? ⟨key, []⟩ with
    | none => simp [getText, get, Path.ofText?_of_isIdentifier identifier, found] at read
    | some value =>
      rw [getText, get_of_value? identifier found] at read
      have converted : value.toText = .ok text := by
        cases outcome : value.toText with
        | error cause => simp [outcome, Except.mapError] at read
        | ok other => simpa [outcome, Except.mapError] using read
      obtain ⟨origin, content, rfl⟩ := Value.eq_scalar_of_toText converted
      rw [value?_root, made] at found
      -- nothing is there before the entries are set
      have noted :=
        (mem_of_get?_setAll_eq_scalar found).resolve_right (Option.some_ne_none _).symm
      obtain ⟨entry, member, set⟩ :=
        List.mem_map.mp ((Overrides.mem_noteAll noted).resolve_left List.not_mem_nil)
      obtain ⟨path, denoted⟩ := Option.isSome_iff_exists.mp (paths entry member)
      rw [override, Path.ofKey_of_ofText? denoted, Prod.mk.injEq] at set
      have named := Path.eq_of_ofText?_eq_root (denoted.trans (congrArg some set.1))
      exact ⟨_, by rw [← named, ← set.2]; exact member, converted⟩
  · rintro ⟨value, member, converted⟩
    have single : ∀ origin entries, value ≠ .table origin entries := by
      rintro origin entries rfl
      cases converted
    obtain ⟨again, retaken, found⟩ := value?_ofEntries_of_only paths identifier member
      (merge_of_ne_table single) fun entry inside root =>
        eq_of_independent independent identifier member single
          (Entries.mem_under.mpr ⟨inside, root⟩)
    cases taken.symm.trans retaken
    rw [getText, get_of_value? identifier found, converted]
    rfl

end GatewaySim.Config
