import GatewaySim.Proofs.Config.Parts
import GatewaySim.Proofs.Message.RoundTrip
import GatewaySim.Scenario.Configured
import Mathlib.Data.List.Forall2

/-! # Scenarios in a configuration are read back

A scenario is written into a configuration as a table of three texts, the last of them the text of
its message. A list of such tables is read as the scenarios that they were made from, whatever
characters their texts hold (`ofConfig_of_tables`).
-/

namespace GatewaySim.Scenario

open Config

def entriesFrom (scenario : Scenario) (name sender message : Option Origin) : Entries :=
  [("name", .scalar name (.text scenario.name)), ("sender", .scalar sender (.text scenario.sender)),
    ("message", .scalar message (.text scenario.message.text))]

/-- A value that is the table of a scenario, its entries in any order. -/
inductive IsTable (scenario : Scenario) : Value → Prop where
  | table (origin name sender message : Option Origin) {entries : Entries}
      (perm : entries.Perm (scenario.entriesFrom name sender message)) :
      IsTable scenario (.table origin entries)

variable {scenario : Scenario}

theorem keys_entriesFrom (name sender message : Option Origin) :
    (scenario.entriesFrom name sender message).map Prod.fst = ["name", "sender", "message"] := rfl

theorem getText_of_value? {part : Config} {key text : String} {origin : Option Origin}
    (identifier : IsIdentifier key)
    (found : part.value? ⟨key, []⟩ = some (.scalar origin (.text text))) :
    part.getText key = .ok text := by
  rw [getText, get_of_value? identifier found]
  rfl

/-- A table under different identifiers makes up a part in which each of its texts is found. -/
theorem exists_part_of_identifiers {entries : Entries}
    (identifiers : ∀ key, key ∈ entries.map Prod.fst → IsIdentifier key)
    (nodup : (entries.map Prod.fst).Nodup) :
    ∃ part, Config.ofEntries entries = .ok part ∧
      ∀ key origin content, (key, Value.scalar origin (.text content)) ∈ entries →
        part.getText key = .ok content := by
  obtain ⟨part, taken, found⟩ := ofEntries_of_identifiers identifiers nodup
  refine ⟨part, taken, fun key origin content member => ?_⟩
  have there := found key _ member
  rw [Value.merge] at there
  · exact getText_of_value? (identifiers key (List.mem_map_of_mem member)) there
  · simp

theorem ofPart_of_texts {part : Config} (index : Nat)
    (name : part.getText "name" = .ok scenario.name)
    (sender : part.getText "sender" = .ok scenario.sender)
    (message : part.getText "message" = .ok scenario.message.text) :
    ofPart index part = .ok scenario := by
  simp only [ofPart, name, sender, message, Message.read_text_eq]

theorem ofValue_of_isTable {value : Value} (table : IsTable scenario value) (index : Nat) :
    ofValue index value = .ok scenario := by
  cases table with
  | table origin name sender message perm =>
    rename_i entries
    have keys := perm.map Prod.fst
    rw [keys_entriesFrom] at keys
    have identifiers : ∀ key, key ∈ entries.map Prod.fst → IsIdentifier key := by
      have each : ∀ key, key ∈ ["name", "sender", "message"] → IsIdentifier key := by decide
      exact fun key member => each key (keys.mem_iff.mp member)
    have nodup : (entries.map Prod.fst).Nodup := keys.nodup_iff.mpr (by decide)
    obtain ⟨part, taken, found⟩ := exists_part_of_identifiers identifiers nodup
    have text : ∀ key origin content,
        (key, Value.scalar origin (.text content)) ∈ scenario.entriesFrom name sender message →
          part.getText key = .ok content :=
      fun key origin content member => found key origin content (perm.mem_iff.mpr member)
    have read : ofPart index part = .ok scenario := by
      apply ofPart_of_texts
      · exact text "name" name _ (by simp [entriesFrom])
      · exact text "sender" sender _ (by simp [entriesFrom])
      · exact text "message" message _ (by simp [entriesFrom])
    simp only [ofValue, Value.toTable, taken, read]

theorem ofValues_of_tables {scenarios : List Scenario} {values : List Value}
    (tables : List.Forall₂ IsTable scenarios values) (index : Nat) :
    ofValues index values = .ok scenarios := by
  induction tables generalizing index with
  | nil => rfl
  | cons table _ ih =>
    rw [ofValues, ofValue_of_isTable table index]
    dsimp only
    rw [ih (index + 1)]
    rfl

/-- No scenarios are configured exactly if `scenario` is no array. -/
theorem eq_none_iff_of_ofConfig {config : Config} {configured : Option (List Scenario)}
    (read : ofConfig config = .ok configured) :
    configured = none ↔
      ∀ origin values, config.value? ⟨"scenario", []⟩ ≠ some (.array origin values) := by
  unfold ofConfig at read
  cases array : config.getArray "scenario" with
  | error cause =>
    rw [array] at read
    cases read
    refine ⟨fun _ origin values listed => ?_, fun _ => rfl⟩
    have found := (getArray_eq_ok_iff (by decide)).mpr ⟨origin, listed⟩
    cases array.symm.trans found
  | ok values =>
    obtain ⟨origin, listed⟩ := (getArray_eq_ok_iff (by decide)).mp array
    refine ⟨fun none => ?_, fun apart => absurd listed (apart origin values)⟩
    rw [array, none] at read
    dsimp only at read
    cases values : ofValues 0 values <;> simp [values, Except.map] at read

/-- A configuration that lists the tables of some scenarios is read as these scenarios, in
order. -/
theorem ofConfig_of_tables {config : Config} {origin : Option Origin} {values : List Value}
    {scenarios : List Scenario}
    (listed : config.value? ⟨"scenario", []⟩ = some (.array origin values))
    (tables : List.Forall₂ IsTable scenarios values) :
    Scenario.ofConfig config = .ok (some scenarios) := by
  have array : config.getArray "scenario" = .ok values := by
    rw [getArray, get_of_value? (by decide) listed]
    rfl
  simp only [Scenario.ofConfig, array, ofValues_of_tables tables]
  rfl

/-- Texts that look like numbers, paths and quotations, in tables whose entries come in different
orders. -/
theorem ofConfig_of_tables_quoted :
    let first : Scenario := ⟨"", "\"\\\n", { src := "\x00", dmId := "\x7b\"src\":null\x7d" }⟩
    let second : Scenario := ⟨"1e5", "a.b[0]", .empty⟩
    let entry (key text : String) : String × Value := (key, .scalar none (.text text))
    let values : List Value :=
      [.table (some (.file "gateway.toml"))
          [entry "message" first.message.text, entry "name" "", entry "sender" "\"\\\n"],
        .table none [entry "name" "1e5", entry "sender" "a.b[0]", entry "message" "\x7b\x7d"]]
    let config : Config := ⟨.table none [entry "sender" "x", ("scenario", .array none values)]⟩
    config.value? ⟨"scenario", []⟩ = some (.array none values) ∧
      List.Forall₂ IsTable [first, second] values ∧
      Scenario.ofConfig config = .ok (some [first, second]) := by
  intro first second entry values config
  have listed : config.value? ⟨"scenario", []⟩ = some (.array none values) := rfl
  have tables : List.Forall₂ IsTable [first, second] values :=
    .cons (.table _ none none none (@List.perm_append_comm _ [_] [_, _]))
      (.cons (.table none none none none (.refl _)) .nil)
  exact ⟨listed, tables, ofConfig_of_tables listed tables⟩

end GatewaySim.Scenario
