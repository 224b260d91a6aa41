import GatewaySim.Config.Source
import GatewaySim.Proofs.Toml.Keys

/-! # No key of a configuration occurs twice

Whatever sources a configuration is put together from, no key is repeated in any of its tables
(`keyed_ofSources`): readers put members and entries in place of earlier ones with the same key, or
refuse them, and laying a source over a configuration changes entries in place.
-/

namespace GatewaySim.Config

theorem Value.keyed_empty {origin : Option Origin} : (Value.table origin []).Keyed :=
  .table origin List.nodup_nil (by simp)

theorem keyed_put {origin : Option Origin} {entries : Entries} {key : String} {value : Value}
    (table : (Value.table origin entries).Keyed) (keyed : value.Keyed) :
    (Value.table origin (entries.put key value)).Keyed := by
  obtain ⟨nodup, each⟩ := Value.keyed_table_iff.mp table
  refine .table origin (Entries.nodup_keys_change nodup) fun entry member => ?_
  rcases Entries.mem_change member with kept | ⟨_, changed, _⟩
  · exact each entry kept
  · exact changed ▸ keyed

/-! ## JSON -/

namespace JsonSource

def KeyedReader (reader : Reader Value) : Prop :=
  ∀ text value rest, reader text = .ok (value, rest) → value.Keyed

variable {readItem : Reader Value} {first : Bool} {text : List Char} {origin : Option Origin}

theorem keyed_readItems (keyed : KeyedReader readItem) {before items : List Value}
    {rest : Rest text} (each : ∀ item, item ∈ before → item.Keyed)
    (read : readItems readItem first before text = .ok (items, rest)) :
    ∀ item, item ∈ items → item.Keyed := by
  fun_induction readItems readItem first before text with
  | case2 =>
    cases read
    simpa using each
  | case5 first before text start step item behind found shorter items last onward ih =>
    cases read
    exact ih (List.forall_mem_cons.mpr ⟨keyed _ _ _ found, each⟩) onward
  | case1 | case3 | case4 => cases read

theorem keyed_readMembers (keyed : KeyedReader readItem) {before members : Entries}
    {rest : Rest text} (table : (Value.table origin before).Keyed)
    (read : readMembers readItem first before text = .ok (members, rest)) :
    (Value.table origin members).Keyed := by
  fun_induction readMembers readItem first before text with
  | case2 =>
    cases read
    exact table
  | case6 first before text name colon step start separated item behind found left members last
      onward =>
    rename_i ih
    cases read
    exact ih (keyed_put table (keyed _ _ _ found)) onward
  | case1 | case3 | case4 | case5 => cases read

/-- What a value was read from: nothing nested, or items or members that are nested one level less
deep. -/
inductive ReadAs (origin : Option Origin) : Nat → Value → Prop where
  | scalar {depth : Nat} (content : Scalar) : ReadAs origin depth (.scalar origin content)
  | array {depth : Nat} {text : List Char} {items : List Value} {rest : Rest text}
      (found : readItems (readValue origin depth) true [] text = .ok (items, rest)) :
      ReadAs origin (depth + 1) (.array origin items)
  | table {depth : Nat} {text : List Char} {members : Entries} {rest : Rest text}
      (found : readMembers (readValue origin depth) true [] text = .ok (members, rest)) :
      ReadAs origin (depth + 1) (.table origin members)

theorem readAs_of_readValue {depth : Nat} {value : Value} {rest : Rest text}
    (read : readValue origin depth text = .ok (value, rest)) : ReadAs origin depth value := by
  rw [readValue.eq_def] at read
  dsimp only at read
  -- A branch either fails or gives one of the three kinds of values.
  repeat' split at read
  all_goals cases read
  all_goals first | exact .scalar _ | exact .array ‹_› | exact .table ‹_›

theorem keyed_readValue (origin : Option Origin) (depth : Nat) :
    KeyedReader (readValue origin depth) := by
  induction depth with
  | zero =>
    intro text value rest read
    cases readAs_of_readValue read with
    | scalar content => exact .scalar origin content
  | succ depth ih =>
    intro text value rest read
    cases readAs_of_readValue read with
    | scalar content => exact .scalar origin content
    | array found => exact .array origin (keyed_readItems ih (by simp) found)
    | table found => exact keyed_readMembers ih Value.keyed_empty found

theorem keyed_readWhole {value : Value} {text : List Char}
    (read : readWhole origin text = .ok value) : value.Keyed := by
  unfold readWhole at read
  split at read
  next => cases read
  next found =>
    split at read
    next => cases read
    next =>
      cases read
      exact keyed_readValue _ _ _ _ _ found

theorem keyed_read {text : String} {entries : Entries}
    (read : JsonSource.read origin text = .ok entries) :
    ∀ entry, entry ∈ entries → entry.2.Keyed := by
  unfold JsonSource.read at read
  split at read
  next found =>
    cases read
    exact (Value.keyed_table_iff.mp (keyed_readWhole found)).2
  next => cases read

end JsonSource

/-! ## The environment -/

theorem Environment.keyed_read (pairs : List (String × String)) :
    (Value.table none (Environment.read pairs)).Keyed := by
  refine List.foldlRecOn (motive := fun entries => (Value.table none entries).Keyed) pairs _
    Value.keyed_empty fun entries keyed pair _ => ?_
  dsimp only
  split
  next => exact keyed_put keyed (.scalar ..)
  next => exact keyed

/-! ## All sources -/

theorem Source.keyed_entries {source : Source} {entries : Entries}
    (given : source.entries = .ok entries) : ∀ entry, entry ∈ entries → entry.2.Keyed := by
  cases source with
  | toml origin text =>
    rw [Source.entries] at given
    split at given
    next found =>
      cases given
      exact (Value.keyed_table_iff.mp (Toml.keyed_read found)).2
    next => cases given
  | json origin text => exact JsonSource.keyed_read given
  | environment pairs =>
    cases given
    exact (Value.keyed_table_iff.mp (Environment.keyed_read pairs)).2

theorem keyed_addEntries {config : Config} {entries : Entries} (keyed : config.root.Keyed)
    (each : ∀ entry, entry ∈ entries → entry.2.Keyed) :
    (config.addEntries entries).root.Keyed := by
  unfold addEntries
  induction entries generalizing config with
  | nil => exact keyed
  | cons entry rest ih =>
    rw [List.forall_mem_cons] at each
    exact ih (keyed_set keyed each.1 _) each.2

/-- No table of a configuration from any sources repeats a key. -/
theorem keyed_ofSources {sources : List Source} {config : Config}
    (built : ofSources sources = .ok config) : config.root.Keyed := by
  unfold ofSources at built
  have keyed : ({} : Config).root.Keyed := keyed_empty
  generalize ({} : Config) = before at built keyed
  induction sources generalizing before with
  | nil =>
    cases built
    exact keyed
  | cons source rest ih =>
    rw [List.foldlM_cons] at built
    cases given : source.entries with
    | error e =>
      rw [given] at built
      cases built
    | ok entries =>
      rw [given] at built
      exact ih _ built (keyed_addEntries keyed (Source.keyed_entries given))

end GatewaySim.Config
