import GatewaySim.Config.Section
import Mathlib.Data.List.Nodup
import Mathlib.Data.List.TakeWhile

/-! # Tables as configurations

A table makes up a configuration exactly if all its keys are paths; one that is not spoils all of
them (`ofEntries_eq`). A plain identifier denotes the entry of that name at the root
(`ofText?_of_isIdentifier`), so a table whose keys are different identifiers makes up a
configuration in which every entry is found again, in whatever order they are set
(`ofEntries_of_identifiers`).
-/

namespace GatewaySim.Config

/-! ## Identifiers -/

/-- Whether a text is a path of one key. -/
def IsIdentifier (text : String) : Prop :=
  text.toList ≠ [] ∧ ∀ c, c ∈ text.toList → Path.isKeyChar c

instance (text : String) : Decidable (IsIdentifier text) :=
  decidable_of_iff (text.toList ≠ [] ∧ text.toList.all Path.isKeyChar)
    (by rw [IsIdentifier, List.all_eq_true])

theorem Path.ofText?_of_isIdentifier {text : String} (identifier : IsIdentifier text) :
    ofText? text = some ⟨text, []⟩ := by
  obtain ⟨nonempty, valid⟩ := identifier
  have taken := List.takeWhile_eq_self_iff.mpr valid
  have dropped := List.dropWhile_eq_nil_iff.mpr valid
  have key : readKey text.toList = some (text, []) := by
    simp [readKey, taken, dropped, nonempty]
  have steps : readSteps [] = some [] := by rw [readSteps]
  simp [ofText?, key, steps]

theorem value?_root (config : Config) (key : String) :
    config.value? ⟨key, []⟩ = config.root.entries.get? key := by
  simp [value?, Value.follow, Value.step?]

theorem get_of_value? {α : Type} {config : Config} {key : String} {value : Value}
    (identifier : IsIdentifier key) (found : config.value? ⟨key, []⟩ = some value)
    (convert : Value → Except Mismatch α) :
    config.get convert key =
      (convert value).mapError fun mismatch => .wrongKind (mismatch.withKey key) := by
  simp only [get, Path.ofText?_of_isIdentifier identifier, found]

theorem getArray_eq_ok_iff {config : Config} {key : String} (identifier : IsIdentifier key)
    {values : List Value} :
    config.getArray key = .ok values ↔
      ∃ origin, config.value? ⟨key, []⟩ = some (.array origin values) := by
  cases found : config.value? ⟨key, []⟩ with
  | none => simp [getArray, get, Path.ofText?_of_isIdentifier identifier, found]
  | some value =>
    rw [getArray, get_of_value? identifier found]
    cases value <;> simp [Value.toArray, Except.mapError]

/-! ## Entries one after the other -/

theorem get?_set (config : Config) (key other : String) (value : Value) :
    (config.set ⟨key, []⟩ value).root.entries.get? other =
      if other = key then some (value.merge ((config.root.entries.get? key).getD .nil))
      else config.root.entries.get? other := by
  obtain ⟨root⟩ := config
  cases root <;> simp [set, Value.change, Value.entries, Entries.get?_change, Entries.get?]

theorem setAll_cons (config : Config) (path : Path) (value : Value) (rest : Overrides) :
    config.setAll ((path, value) :: rest) = (config.set path value).setAll rest := rfl

theorem Entries.get?_eq_none_of_notMem {entries : Entries} {key : String}
    (missing : key ∉ entries.map Prod.fst) : entries.get? key = none := by
  induction entries with
  | nil => rfl
  | cons entry rest ih =>
    rw [List.map_cons, List.mem_cons, not_or] at missing
    rw [get?, if_neg (Ne.symm missing.1), ih missing.2]

theorem Entries.get?_of_mem {entries : Entries} (nodup : (entries.map Prod.fst).Nodup)
    {key : String} {value : Value} (member : (key, value) ∈ entries) :
    entries.get? key = some value := by
  induction entries with
  | nil => cases member
  | cons entry rest ih =>
    rw [List.map_cons, List.nodup_cons] at nodup
    rcases List.mem_cons.mp member with rfl | behind
    · rw [get?, if_pos rfl]
    · have other : entry.1 ≠ key :=
        fun same => nodup.1 (same ▸ List.mem_map_of_mem (f := Prod.fst) behind)
      rw [get?, if_neg other, ih nodup.2 behind]

/-- Entries under new and different keys at the root are set without touching each other. -/
theorem get?_setAll_roots {entries : Entries} (nodup : (entries.map Prod.fst).Nodup)
    (config : Config)
    (fresh : ∀ key, key ∈ entries.map Prod.fst → config.root.entries.get? key = none)
    (key : String) :
    (config.setAll (entries.map fun entry => (⟨entry.1, []⟩, entry.2))).root.entries.get? key =
      match entries.get? key with
      | some value => some (value.merge .nil)
      | none => config.root.entries.get? key := by
  induction entries generalizing config with
  | nil => rfl
  | cons entry rest ih =>
    obtain ⟨name, value⟩ := entry
    rw [List.map_cons, List.nodup_cons] at nodup
    simp only [List.map_cons, List.forall_mem_cons] at fresh
    have untouched : ∀ key, key ∈ rest.map Prod.fst →
        (config.set ⟨name, []⟩ value).root.entries.get? key = none := by
      intro key member
      have other : key ≠ name := fun same => nodup.1 (same ▸ member)
      rw [get?_set, if_neg other, fresh.2 key member]
    have found := ih nodup.2 (config.set ⟨name, []⟩ value) untouched
    rw [List.map_cons, setAll_cons, found, Entries.get?]
    by_cases same : name = key
    · subst same
      rw [if_pos rfl, Entries.get?_eq_none_of_notMem nodup.1, get?_set, if_pos rfl, fresh.1]
      rfl
    · rw [if_neg same]
      cases Entries.get? rest key with
      | some value => rfl
      | none => rw [get?_set, if_neg (Ne.symm same)]

/-! ## Entries as overrides -/

theorem Path.ofKey_of_ofText? {text : String} {path : Path} (denoted : ofText? text = some path) :
    ofKey text = path := by
  rw [ofKey, denoted, Option.getD_some]

theorem Path.ofKey_of_isIdentifier {text : String} (identifier : IsIdentifier text) :
    ofKey text = ⟨text, []⟩ :=
  ofKey_of_ofText? (ofText?_of_isIdentifier identifier)

def override (entry : String × Value) : Path × Value := (Path.ofKey entry.1, entry.2)

def Entries.ArePaths (entries : Entries) : Prop :=
  ∀ entry, entry ∈ entries → (Path.ofText? entry.1).isSome

instance (entries : Entries) : Decidable entries.ArePaths :=
  inferInstanceAs (Decidable (∀ entry, entry ∈ entries → (Path.ofText? entry.1).isSome))

theorem Entries.arePaths_cons {entry : String × Value} {rest : Entries} :
    Entries.ArePaths (entry :: rest) ↔ (Path.ofText? entry.1).isSome ∧ rest.ArePaths :=
  List.forall_mem_cons

namespace Overrides

def noteAll (overrides : Overrides) (entries : Entries) : Overrides :=
  entries.foldl (fun noted entry => noted.note (Path.ofKey entry.1) entry.2) overrides

theorem foldlM_noteEntry (overrides : Overrides) (entries : Entries) :
    entries.foldlM noteEntry overrides =
      if entries.ArePaths then .ok (overrides.noteAll entries) else .error .badPath := by
  induction entries generalizing overrides with
  | nil => rfl
  | cons entry rest ih =>
    simp only [List.foldlM_cons, Entries.arePaths_cons]
    cases denoted : Path.ofText? entry.1 with
    | none => simp [noteEntry, denoted, bind, Except.bind]
    | some path =>
      have noted : noteEntry overrides entry = .ok (overrides.note path entry.2) := by
        simp only [noteEntry, denoted]
      rw [noted]
      change rest.foldlM noteEntry (overrides.note path entry.2) = _
      rw [ih, noteAll, noteAll, List.foldl_cons, Path.ofKey_of_ofText? denoted]
      simp

theorem note_of_notMem {overrides : Overrides} {path : Path}
    (fresh : path ∉ overrides.map Prod.fst) (value : Value) :
    overrides.note path value = overrides ++ [(path, value)] := by
  induction overrides with
  | nil => rfl
  | cons noted rest ih =>
    rw [List.map_cons, List.mem_cons, not_or] at fresh
    rw [note, if_neg (Ne.symm fresh.1), ih fresh.2, List.cons_append]

/-- Entries whose keys denote new and different paths are all noted, one after the other. -/
theorem noteAll_of_paths {overrides : Overrides} {entries : Entries}
    (nodup : (overrides.map Prod.fst ++ entries.map fun entry => Path.ofKey entry.1).Nodup) :
    overrides.noteAll entries = overrides ++ entries.map override := by
  induction entries generalizing overrides with
  | nil => simp [noteAll]
  | cons entry rest ih =>
    have fresh : Path.ofKey entry.1 ∉ overrides.map Prod.fst := fun member =>
      (List.nodup_append.mp nodup).2.2 _ member _ List.mem_cons_self rfl
    rw [noteAll, List.foldl_cons, note_of_notMem fresh]
    have onward := @ih (overrides ++ [override entry]) (by simpa [override] using nodup)
    simpa [noteAll, override] using onward

end Overrides

/-- A table makes up a configuration if all its keys are paths; one that is not is an error. -/
theorem ofEntries_eq (entries : Entries) :
    ofEntries entries =
      if entries.ArePaths then .ok (({} : Config).setAll (Overrides.noteAll [] entries))
      else .error .badPath := by
  rw [ofEntries, Overrides.ofEntries, Overrides.foldlM_noteEntry]
  split <;> rfl

/-- Entries whose keys denote different paths are set one after the other. -/
theorem ofEntries_of_paths {entries : Entries} (paths : entries.ArePaths)
    (nodup : (entries.map fun entry => Path.ofKey entry.1).Nodup) :
    ofEntries entries = .ok (({} : Config).setAll (entries.map override)) := by
  have noted : Overrides.noteAll [] entries = entries.map override :=
    @Overrides.noteAll_of_paths [] entries nodup
  rw [ofEntries_eq, if_pos paths, noted]

/-- Entries under different identifiers are set one after the other, each under its key. -/
theorem ofEntries_eq_of_identifiers {entries : Entries}
    (identifiers : ∀ key, key ∈ entries.map Prod.fst → IsIdentifier key)
    (nodup : (entries.map Prod.fst).Nodup) :
    ofEntries entries =
      .ok (({} : Config).setAll (entries.map fun entry => (⟨entry.1, []⟩, entry.2))) := by
  have each : ∀ entry, entry ∈ entries → IsIdentifier entry.1 :=
    fun entry member => identifiers entry.1 (List.mem_map_of_mem member)
  have paths : entries.ArePaths := by
    intro entry member
    rw [Path.ofText?_of_isIdentifier (each entry member), Option.isSome_some]
  have denoted : entries.map (fun entry => Path.ofKey entry.1) =
      (entries.map Prod.fst).map fun key => ⟨key, []⟩ := by
    rw [List.map_map]
    exact List.map_congr_left fun entry member => Path.ofKey_of_isIdentifier (each entry member)
  have different : (entries.map fun entry => Path.ofKey entry.1).Nodup := by
    rw [denoted]
    exact nodup.map fun first second same => congrArg Path.root same
  have roots : entries.map override = entries.map fun entry => (⟨entry.1, []⟩, entry.2) :=
    List.map_congr_left fun entry member => by
      rw [override, Path.ofKey_of_isIdentifier (each entry member)]
  rw [ofEntries_of_paths paths different, roots]

/-- A table with different identifiers as its keys is a configuration in which each entry is found
under its key. -/
theorem ofEntries_of_identifiers {entries : Entries}
    (identifiers : ∀ key, key ∈ entries.map Prod.fst → IsIdentifier key)
    (nodup : (entries.map Prod.fst).Nodup) :
    ∃ part, ofEntries entries = .ok part ∧
      ∀ key value, (key, value) ∈ entries →
        part.value? ⟨key, []⟩ = some (value.merge .nil) := by
  refine ⟨_, ofEntries_eq_of_identifiers identifiers nodup, fun key value member => ?_⟩
  rw [value?_root, get?_setAll_roots nodup _ fun _ _ => rfl, Entries.get?_of_mem nodup member]

end GatewaySim.Config
