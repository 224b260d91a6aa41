import GatewaySim.Proofs.Config.Overrides
import GatewaySim.Proofs.Scenario.Configured
import Mathlib

/-! # Lists of scenarios, read entry by entry

An entry gives a scenario (`Gives`), or it fails by the first of five checks that it does not pass
(`Fails`). A list is read if each of its entries is (`ofConfig_eq_ok_iff`), and otherwise fails as
the first of its entries that fails (`ofConfig_eq_error_iff`); what stands behind that entry does
not matter.
-/

namespace GatewaySim.Scenario

open Config

def title (index : Nat) (part : Config) : String :=
  (part.getText "name").toOption.getD (defaultName index)

/-- An entry passes all checks: it is a table whose keys are paths, and the configuration that is
made of it has a sender and a message that are texts, the latter the text of a message. -/
inductive Gives : Value → Config → String → Message → Prop where
  | table {origin : Option Origin} {entries : Entries} {part : Config} {sender text : String}
      {message : Message} (paths : entries.ArePaths) (taken : Config.ofEntries entries = .ok part)
      (bySender : part.getText "sender" = .ok sender) (ofText : part.getText "message" = .ok text)
      (parsed : Message.read text = .ok message) :
      Gives (.table origin entries) part sender message

def Readable (value : Value) : Prop :=
  ∃ part sender message, Gives value part sender message

def Reads (index : Nat) (value : Value) (scenario : Scenario) : Prop :=
  ∃ part, Gives value part scenario.sender scenario.message ∧ scenario.name = title index part

/-- The first check that an entry does not pass, as the failure that it leads to. -/
inductive Fails (index : Nat) : Value → Failure → Prop where
  | entry {value : Value} (other : ∀ origin entries, value ≠ .table origin entries) :
      Fails index value (.badEntry index (value.mismatch .table))
  | keys {origin : Option Origin} {entries : Entries} (spoiled : ¬ entries.ArePaths) :
      Fails index (.table origin entries) (.config .badPath)
  | sender {origin : Option Origin} {entries : Entries} {part : Config} {cause : Config.Error}
      (paths : entries.ArePaths) (taken : Config.ofEntries entries = .ok part)
      (missing : part.getText "sender" = .error cause) :
      Fails index (.table origin entries) (.noSender (title index part) cause)
  | message {origin : Option Origin} {entries : Entries} {part : Config} {sender : String}
      {cause : Config.Error} (paths : entries.ArePaths)
      (taken : Config.ofEntries entries = .ok part) (bySender : part.getText "sender" = .ok sender)
      (missing : part.getText "message" = .error cause) :
      Fails index (.table origin entries) (.noMessage (title index part) cause)
  | json {origin : Option Origin} {entries : Entries} {part : Config} {sender text : String}
      {cause : Json.ReadError} (paths : entries.ArePaths)
      (taken : Config.ofEntries entries = .ok part) (bySender : part.getText "sender" = .ok sender)
      (ofText : part.getText "message" = .ok text) (malformed : Message.read text = .error cause) :
      Fails index (.table origin entries) (.badMessage (title index part) cause)

/-! ## One entry -/

variable {index : Nat} {value : Value} {scenario : Scenario} {failure : Failure}

theorem readable_iff (index : Nat) :
    Readable value ↔ ∃ scenario, Reads index value scenario := by
  constructor
  · rintro ⟨part, sender, message, gives⟩
    exact ⟨⟨title index part, sender, message⟩, part, gives, rfl⟩
  · rintro ⟨scenario, part, gives, _⟩
    exact ⟨part, scenario.sender, scenario.message, gives⟩

theorem ofPart_ok {part : Config} {sender text : String} {message : Message}
    (bySender : part.getText "sender" = .ok sender) (ofText : part.getText "message" = .ok text)
    (parsed : Message.read text = .ok message) :
    ofPart index part = .ok ⟨title index part, sender, message⟩ := by
  simp only [ofPart, bySender, ofText, parsed, title]
  cases part.getText "name" <;> rfl

theorem ofPart_noSender {part : Config} {cause : Config.Error}
    (missing : part.getText "sender" = .error cause) :
    ofPart index part = .error (.noSender (title index part) cause) := by
  simp only [ofPart, missing, title]
  cases part.getText "name" <;> rfl

theorem ofPart_noMessage {part : Config} {sender : String} {cause : Config.Error}
    (bySender : part.getText "sender" = .ok sender)
    (missing : part.getText "message" = .error cause) :
    ofPart index part = .error (.noMessage (title index part) cause) := by
  simp only [ofPart, bySender, missing, title]
  cases part.getText "name" <;> rfl

theorem ofPart_badMessage {part : Config} {sender text : String} {cause : Json.ReadError}
    (bySender : part.getText "sender" = .ok sender) (ofText : part.getText "message" = .ok text)
    (malformed : Message.read text = .error cause) :
    ofPart index part = .error (.badMessage (title index part) cause) := by
  simp only [ofPart, bySender, ofText, malformed, title]
  cases part.getText "name" <;> rfl

theorem ofValue_of_table {origin : Option Origin} {entries : Entries} {part : Config}
    (taken : Config.ofEntries entries = .ok part) :
    ofValue index (.table origin entries) = ofPart index part := by
  simp only [ofValue, Value.toTable, taken]

theorem ofValue_of_reads (reads : Reads index value scenario) :
    ofValue index value = .ok scenario := by
  obtain ⟨name, sender, message⟩ := scenario
  obtain ⟨part, ⟨paths, taken, bySender, ofText, parsed⟩, rfl⟩ := reads
  rw [ofValue_of_table taken, ofPart_ok bySender ofText parsed]

theorem ofValue_of_fails (fails : Fails index value failure) :
    ofValue index value = .error failure := by
  cases fails with
  | entry other =>
    cases value with
    | scalar | array => rfl
    | table origin entries => exact absurd rfl (other origin entries)
  | keys spoiled => simp only [ofValue, Value.toTable, ofEntries_eq, if_neg spoiled]
  | sender paths taken missing => rw [ofValue_of_table taken, ofPart_noSender missing]
  | message paths taken bySender missing =>
    rw [ofValue_of_table taken, ofPart_noMessage bySender missing]
  | json paths taken bySender ofText malformed =>
    rw [ofValue_of_table taken, ofPart_badMessage bySender ofText malformed]

/-- An entry gives a scenario, or fails by one of the checks. -/
theorem reads_or_fails (index : Nat) (value : Value) :
    (∃ scenario, Reads index value scenario) ∨ ∃ failure, Fails index value failure := by
  cases value with
  | scalar | array => exact .inr ⟨_, .entry fun _ _ => nofun⟩
  | table origin entries =>
    by_cases paths : Entries.ArePaths entries
    · have taken := (ofEntries_eq entries).trans (if_pos paths)
      generalize setAll {} (Overrides.noteAll [] entries) = part at taken
      cases bySender : part.getText "sender" with
      | error cause => exact .inr ⟨_, .sender paths taken bySender⟩
      | ok sender =>
        cases ofText : part.getText "message" with
        | error cause => exact .inr ⟨_, .message paths taken bySender ofText⟩
        | ok text =>
          cases parsed : Message.read text with
          | error cause => exact .inr ⟨_, .json paths taken bySender ofText parsed⟩
          | ok message =>
            exact .inl ⟨⟨title index part, sender, message⟩, part,
              .table paths taken bySender ofText parsed, rfl⟩
    · exact .inr ⟨_, .keys paths⟩

theorem Reads.unique {other : Scenario} (reads : Reads index value scenario)
    (also : Reads index value other) : scenario = other :=
  Except.ok.inj ((ofValue_of_reads reads).symm.trans (ofValue_of_reads also))

/-! ## All entries -/

/-- Every entry of a list gives the scenario at its place. The first entry of the list stands at
`start`. -/
def Each (start : Nat) (values : List Value) (scenarios : List Scenario) : Prop :=
  List.Forall₂ (fun entry scenario => Reads entry.2 entry.1 scenario) (values.zipIdx start)
    scenarios

/-- The entry at a place of a list fails, and all entries before it can be read. The first entry of
the list stands at `start`. -/
def FirstFails (start : Nat) (values : List Value) (place : Nat) (failure : Failure) : Prop :=
  ∃ value, values[place]? = some value ∧ Fails (start + place) value failure ∧
    ∀ earlier, earlier ∈ values.take place → Readable earlier

variable {values : List Value} {scenarios : List Scenario}

theorem ofValues_of_each {start : Nat} (each : Each start values scenarios) :
    ofValues start values = .ok scenarios := by
  induction values generalizing start scenarios with
  | nil =>
    cases each
    rfl
  | cons value rest ih =>
    cases each with
    | cons here behind =>
      rw [ofValues, ofValue_of_reads here]
      dsimp only
      rw [ih behind]
      rfl

theorem firstFails_succ {start place : Nat} :
    FirstFails start (value :: values) (place + 1) failure ↔
      Readable value ∧ FirstFails (start + 1) values place failure := by
  rw [FirstFails, FirstFails, List.getElem?_cons_succ, List.take_succ_cons, Nat.add_right_comm,
    ← Nat.add_assoc]
  constructor
  · rintro ⟨found, there, fails, readable⟩
    rw [List.forall_mem_cons] at readable
    exact ⟨readable.1, found, there, fails, readable.2⟩
  · rintro ⟨readable, found, there, fails, onward⟩
    exact ⟨found, there, fails, List.forall_mem_cons.mpr ⟨readable, onward⟩⟩

/-- Which entry fails first is settled by the list up to that entry. -/
theorem FirstFails.congr {start place : Nat} {others : List Value}
    (first : FirstFails start values place failure)
    (agree : others.take (place + 1) = values.take (place + 1)) :
    FirstFails start others place failure := by
  obtain ⟨value, there, fails, readable⟩ := first
  have before : others.take place = values.take place := by
    simpa [List.take_take] using congrArg (List.take place) agree
  have here : others[place]? = values[place]? := by
    rw [← List.getElem?_take_of_lt (Nat.lt_succ_self place), agree,
      List.getElem?_take_of_lt (Nat.lt_succ_self place)]
  exact ⟨value, here.trans there, fails, before ▸ readable⟩

theorem ofValues_of_firstFails {start place : Nat}
    (first : FirstFails start values place failure) : ofValues start values = .error failure := by
  induction values generalizing start place with
  | nil =>
    obtain ⟨value, there, _⟩ := first
    cases there
  | cons value rest ih =>
    cases place with
    | zero =>
      obtain ⟨found, there, fails, _⟩ := first
      cases there
      rw [Nat.add_zero] at fails
      rw [ofValues, ofValue_of_fails fails]
    | succ place =>
      obtain ⟨readable, behind⟩ := firstFails_succ.mp first
      obtain ⟨scenario, reads⟩ := (readable_iff start).mp readable
      rw [ofValues, ofValue_of_reads reads]
      dsimp only
      rw [ih behind]
      rfl

/-- All entries of a list can be read, or there is a first one that fails. -/
theorem each_or_firstFails (start : Nat) (values : List Value) :
    (∃ scenarios, Each start values scenarios) ∨
      ∃ place failure, FirstFails start values place failure := by
  induction values generalizing start with
  | nil => exact .inl ⟨[], .nil⟩
  | cons value rest ih =>
    rcases reads_or_fails start value with ⟨scenario, reads⟩ | ⟨failure, fails⟩
    · rcases ih (start + 1) with ⟨scenarios, each⟩ | ⟨place, failure, first⟩
      · exact .inl ⟨scenario :: scenarios, .cons reads each⟩
      · have readable := (readable_iff start).mpr ⟨scenario, reads⟩
        exact .inr ⟨place + 1, failure, firstFails_succ.mpr ⟨readable, first⟩⟩
    · exact .inr ⟨0, failure, value, rfl, fails, nofun⟩

theorem exists_each_iff (start : Nat) :
    (∃ scenarios, Each start values scenarios) ↔
      ∀ value, value ∈ values → Readable value := by
  induction values generalizing start with
  | nil => simpa using ⟨[], List.Forall₂.nil⟩
  | cons value rest ih =>
    rw [List.forall_mem_cons, ← ih (start + 1), readable_iff start]
    constructor
    · rintro ⟨scenarios, each⟩
      cases each with
      | cons here behind => exact ⟨⟨_, here⟩, _, behind⟩
    · rintro ⟨⟨scenario, here⟩, scenarios, behind⟩
      exact ⟨scenario :: scenarios, .cons here behind⟩

/-! ## Configurations -/

theorem ofConfig_of_listed {config : Config} {origin : Option Origin}
    (listed : config.value? ⟨"scenario", []⟩ = some (.array origin values)) :
    ofConfig config = (ofValues 0 values).map some := by
  have array : config.getArray "scenario" = .ok values :=
    (getArray_eq_ok_iff (by decide)).mpr ⟨origin, listed⟩
  simp only [ofConfig, array]

theorem ofConfig_eq_ok_iff {config : Config} {origin : Option Origin}
    (listed : config.value? ⟨"scenario", []⟩ = some (.array origin values)) :
    ofConfig config = .ok (some scenarios) ↔ Each 0 values scenarios := by
  rw [ofConfig_of_listed listed]
  refine ⟨fun read => ?_, fun each => by rw [ofValues_of_each each]; rfl⟩
  rcases each_or_firstFails 0 values with ⟨others, each⟩ | ⟨place, failure, first⟩
  · rw [ofValues_of_each each] at read
    cases read
    exact each
  · rw [ofValues_of_firstFails first] at read
    cases read

theorem ofConfig_eq_error_iff {config : Config} {origin : Option Origin}
    (listed : config.value? ⟨"scenario", []⟩ = some (.array origin values)) :
    ofConfig config = .error failure ↔ ∃ place, FirstFails 0 values place failure := by
  rw [ofConfig_of_listed listed]
  refine ⟨fun failed => ?_, fun ⟨_, first⟩ => by rw [ofValues_of_firstFails first]; rfl⟩
  rcases each_or_firstFails 0 values with ⟨scenarios, each⟩ | ⟨place, other, first⟩
  · rw [ofValues_of_each each] at failed
    cases failed
  · rw [ofValues_of_firstFails first] at failed
    cases failed
    exact ⟨place, first⟩

def configOfList (values : List Value) : Config := ⟨.table none [("scenario", .array none values)]⟩

end GatewaySim.Scenario
