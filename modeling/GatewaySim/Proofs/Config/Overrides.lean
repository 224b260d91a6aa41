import GatewaySim.Proofs.Config.Alike
import GatewaySim.Proofs.Config.Parts

/-! # An entry that no other key leads into

The keys of a table are paths, so that one entry may be set into the value of another. An entry
whose key no other key leads into is found again as it is, in whatever order the entries are noted
and set (`value?_ofEntries`).
-/

namespace GatewaySim.Config

/-! ## The notes of entries -/

namespace Overrides

theorem mem_note {overrides : Overrides} {path : Path} {value : Value} {noted : Path × Value}
    (member : noted ∈ overrides.note path value) : noted = (path, value) ∨ noted ∈ overrides := by
  induction overrides with
  | nil => exact .inl (List.mem_singleton.mp member)
  | cons first rest ih =>
    rw [note] at member
    split at member
    next =>
      rcases List.mem_cons.mp member with here | behind
      · exact .inl here
      · exact .inr (List.mem_cons_of_mem _ behind)
    next =>
      rcases List.mem_cons.mp member with here | behind
      · exact .inr (here ▸ List.mem_cons_self)
      · exact (ih behind).imp_right (List.mem_cons_of_mem _)

theorem mem_paths_note {overrides : Overrides} {path other : Path} {value : Value} :
    other ∈ (overrides.note path value).map Prod.fst ↔
      other = path ∨ other ∈ overrides.map Prod.fst := by
  induction overrides with
  | nil => simp [note]
  | cons first rest ih =>
    rw [note]
    split
    next here => simp [here]
    next =>
      simp only [List.map_cons, List.mem_cons, ih]
      exact or_left_comm

theorem mem_noteAll {overrides : Overrides} {entries : Entries} {noted : Path × Value}
    (member : noted ∈ overrides.noteAll entries) :
    noted ∈ overrides ∨ noted ∈ entries.map override := by
  induction entries generalizing overrides with
  | nil => exact .inl member
  | cons entry rest ih =>
    rcases @ih (overrides.note (Path.ofKey entry.1) entry.2) member with early | late
    · rcases mem_note early with rfl | kept
      · exact .inr List.mem_cons_self
      · exact .inl kept
    · exact .inr (List.mem_cons_of_mem _ late)

theorem mem_paths_noteAll {overrides : Overrides} {entries : Entries} {path : Path} :
    path ∈ (overrides.noteAll entries).map Prod.fst ↔
      path ∈ overrides.map Prod.fst ∨ path ∈ entries.map fun entry => Path.ofKey entry.1 := by
  induction entries generalizing overrides with
  | nil => simp [noteAll]
  | cons entry rest ih =>
    rw [noteAll, List.foldl_cons, ← noteAll, ih, mem_paths_note, List.map_cons, List.mem_cons]
    exact or_assoc.trans or_left_comm

end Overrides

/-! ## A value that is set alone -/

/-- Whether no other key of a table leads to the place of a key or below it. -/
def Entries.Alone (entries : Entries) (key : String) : Prop :=
  ∀ entry, entry ∈ entries → entry.1 ≠ key →
    ∀ path, Path.ofText? entry.1 = some path → path.root ≠ key

variable {key : String} {value : Value}

theorem get?_set_of_root_ne {path : Path} (apart : path.root ≠ key) (config : Config)
    (other : Value) :
    (config.set path other).root.entries.get? key = config.root.entries.get? key := by
  rw [set, Value.change_cons, Value.change_key]
  exact (Entries.get?_change _ _ _ _).trans (if_neg apart.symm)

/-- A value that takes the place of whatever is there stays in its place if nothing else is set
there or below. -/
theorem get?_setAll_alone {overrides : Overrides}
    (replaces : ∀ under, value.merge under = value)
    (alone : ∀ noted, noted ∈ overrides → noted.1.root = key → noted = (⟨key, []⟩, value))
    (config : Config)
    (present : config.root.entries.get? key = some value ∨ (⟨key, []⟩, value) ∈ overrides) :
    (config.setAll overrides).root.entries.get? key = some value := by
  induction overrides generalizing config with
  | nil => exact present.resolve_right List.not_mem_nil
  | cons noted rest ih =>
    rw [List.forall_mem_cons] at alone
    rw [setAll_cons]
    apply ih alone.2
    by_cases here : noted.1.root = key
    · rw [alone.1 here, get?_set, if_pos rfl, replaces]
      exact .inl rfl
    · rw [get?_set_of_root_ne here]
      refine present.imp_right fun member => (List.mem_cons.mp member).resolve_left ?_
      rintro rfl
      exact here rfl

/-- A value that takes the place of whatever is there is found in what is made of a table, if its
entry is the only one under its key. -/
theorem value?_ofEntries_of_only {entries : Entries} (paths : entries.ArePaths)
    (identifier : IsIdentifier key) (member : (key, value) ∈ entries)
    (replaces : ∀ under, value.merge under = value)
    (only : ∀ entry, entry ∈ entries → (Path.ofKey entry.1).root = key → entry = (key, value)) :
    ∃ part, ofEntries entries = .ok part ∧ part.value? ⟨key, []⟩ = some value := by
  refine ⟨_, (ofEntries_eq entries).trans (if_pos paths), ?_⟩
  have single : ∀ noted, noted ∈ Overrides.noteAll [] entries → noted.1.root = key →
      noted = (⟨key, []⟩, value) := by
    intro noted there root
    obtain ⟨entry, inside, rfl⟩ :=
      List.mem_map.mp ((Overrides.mem_noteAll there).resolve_left List.not_mem_nil)
    rw [only entry inside root, override, Path.ofKey_of_isIdentifier identifier]
  have present : (⟨key, []⟩, value) ∈ Overrides.noteAll [] entries := by
    have noted : (⟨key, []⟩ : Path) ∈ (Overrides.noteAll [] entries).map Prod.fst :=
      Overrides.mem_paths_noteAll.mpr
        (.inr (List.mem_map.mpr ⟨_, member, Path.ofKey_of_isIdentifier identifier⟩))
    obtain ⟨found, inside, path⟩ := List.mem_map.mp noted
    exact single found inside (congrArg Path.root path) ▸ inside
  rw [value?_root]
  exact get?_setAll_alone replaces single _ (.inr present)

/-- A single value or array is found under its key in what is made of a table, if the key stands
alone. -/
theorem value?_ofEntries {entries : Entries} (nodup : (entries.map Prod.fst).Nodup)
    (paths : entries.ArePaths) (identifier : IsIdentifier key) (member : (key, value) ∈ entries)
    (replaces : ∀ under, value.merge under = value) (alone : entries.Alone key) :
    ∃ part, ofEntries entries = .ok part ∧ part.value? ⟨key, []⟩ = some value := by
  refine value?_ofEntries_of_only paths identifier member replaces fun entry inside root => ?_
  obtain ⟨path, denoted⟩ := Option.isSome_iff_exists.mp (paths entry inside)
  have same : entry.1 = key := by
    by_contra other
    rw [Path.ofKey_of_ofText? denoted] at root
    exact alone entry inside other path denoted root
  have first := Entries.get?_of_mem nodup (same ▸ inside : (key, entry.2) ∈ entries)
  rw [Entries.get?_of_mem nodup member] at first
  exact Prod.ext same (Option.some.inj first).symm

end GatewaySim.Config
