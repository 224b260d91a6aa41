import GatewaySim.Proofs.Config.Roots
import GatewaySim.Proofs.Scenario.Listed
import Mathlib

/-! # Lists of scenarios, whatever the order of the keys

The entries of a table are visited in no particular order, and the order decides between entries
that overlap: a scenario with a key `sender.x` beside its sender may be read or not
(`ofConfig_order_matters`). Where no entries at or below `name`, `sender` and `message` overlap,
what becomes of a list can be told from its tables alone, and is the same in every order
(`ofConfig_listed`).
-/

namespace GatewaySim.Scenario

open Config

/-- A value is no table whose keys are paths, or one in which the entries at and below each of the
keys of a scenario are independent. -/
def Settled (value : Value) : Prop :=
  ∀ origin entries, value = .table origin entries → Entries.ArePaths entries →
    ∀ key ∈ ["name", "sender", "message"], (Entries.under entries key).Pairwise Independent

/-- The same value, but for the order of its entries. -/
inductive Reordered : Value → Value → Prop where
  | refl (value : Value) : Reordered value value
  | table (origin : Option Origin) {entries others : Entries} (perm : entries.Perm others) :
      Reordered (.table origin entries) (.table origin others)

/-- An entry of a list holds all that a scenario needs. -/
def Legible (value : Value) : Prop :=
  ∃ origin entries sender text message, value = .table origin entries ∧
    Entries.ArePaths entries ∧ Entries.Holds entries "sender" sender ∧
    Entries.Holds entries "message" text ∧ Message.read text = .ok message

/-- The name of the scenario that a table gives: the text that it holds, or one that is made from
its place in the list. -/
def Named (index : Nat) (entries : Entries) (name : String) : Prop :=
  entries.Holds "name" name ∨
    (∀ text, ¬ entries.Holds "name" text) ∧ name = "scenario " ++ toString index

inductive Shows (index : Nat) : Value → Scenario → Prop where
  | table {origin : Option Origin} {entries : Entries} {scenario : Scenario} {text : String}
      (paths : entries.ArePaths) (named : Named index entries scenario.name)
      (bySender : entries.Holds "sender" scenario.sender) (ofText : entries.Holds "message" text)
      (parsed : Message.read text = .ok scenario.message) :
      Shows index (.table origin entries) scenario

/-- The first thing that an entry lacks, as the failure that it leads to. What is reported about a
missing text is what the configuration that is made of the entry reports. -/
inductive Refused (index : Nat) : Value → Failure → Prop where
  | entry {value : Value} (other : ∀ origin entries, value ≠ .table origin entries) :
      Refused index value (.badEntry index (value.mismatch .table))
  | keys {origin : Option Origin} {entries : Entries} (spoiled : ¬ entries.ArePaths) :
      Refused index (.table origin entries) (.config .badPath)
  | sender {origin : Option Origin} {entries : Entries} {name : String} {part : Config}
      {cause : Config.Error} (paths : entries.ArePaths) (named : Named index entries name)
      (missing : ∀ text, ¬ entries.Holds "sender" text)
      (taken : Config.ofEntries entries = .ok part)
      (reported : part.getText "sender" = .error cause) :
      Refused index (.table origin entries) (.noSender name cause)
  | message {origin : Option Origin} {entries : Entries} {name sender : String} {part : Config}
      {cause : Config.Error} (paths : entries.ArePaths) (named : Named index entries name)
      (bySender : entries.Holds "sender" sender) (missing : ∀ text, ¬ entries.Holds "message" text)
      (taken : Config.ofEntries entries = .ok part)
      (reported : part.getText "message" = .error cause) :
      Refused index (.table origin entries) (.noMessage name cause)
  | json {origin : Option Origin} {entries : Entries} {name sender text : String}
      {cause : Json.ReadError} (paths : entries.ArePaths) (named : Named index entries name)
      (bySender : entries.Holds "sender" sender) (ofText : entries.Holds "message" text)
      (malformed : Message.read text = .error cause) :
      Refused index (.table origin entries) (.badMessage name cause)

/-- An entry of a list is refused, and all entries before it are legible. -/
def FirstRefused (values : List Value) (index : Nat) (failure : Failure) : Prop :=
  ∃ value, values[index]? = some value ∧ Refused index value failure ∧
    ∀ earlier ∈ values.take index, Legible earlier

/-! ## One table -/

section Table

variable {index : Nat} {origin : Option Origin} {entries : Entries} {key name text : String}
  {part : Config}

theorem isIdentifier_of_mem (member : key ∈ ["name", "sender", "message"]) : IsIdentifier key := by
  revert key
  decide

/-- A settled table holds a text under a key of a scenario exactly if it is found there. -/
theorem Settled.getText_iff (settled : Settled (.table origin entries))
    (taken : Config.ofEntries entries = .ok part) (member : key ∈ ["name", "sender", "message"]) :
    part.getText key = .ok text ↔ entries.Holds key text :=
  getText_eq_ok_iff_holds (isIdentifier_of_mem member)
    (settled origin entries rfl (eq_setAll_of_ofEntries taken).1 key member) taken

theorem Settled.missing_iff (settled : Settled (.table origin entries))
    (taken : Config.ofEntries entries = .ok part) (member : key ∈ ["name", "sender", "message"]) :
    (∃ cause, part.getText key = .error cause) ↔ ∀ text, ¬ entries.Holds key text := by
  simp only [← settled.getText_iff taken member]
  cases part.getText key <;> simp

theorem Settled.named_iff (settled : Settled (.table origin entries))
    (taken : Config.ofEntries entries = .ok part) :
    Named index entries name ↔ name = title index part := by
  have holds : ∀ text, part.getText "name" = .ok text ↔ entries.Holds "name" text :=
    fun text => settled.getText_iff taken (by decide)
  unfold Named title
  simp only [← holds]
  cases part.getText "name" with
  | error cause => simp [Except.toOption, defaultName]
  | ok text => simp [Except.toOption, eq_comm]

end Table

/-! ## One entry -/

variable {index : Nat} {value other : Value} {scenario : Scenario} {failure : Failure}

theorem reads_iff_shows (settled : Settled value) :
    Reads index value scenario ↔ Shows index value scenario := by
  constructor
  · rintro ⟨part, gives, named⟩
    cases gives with
    | table paths taken bySender ofText parsed =>
      exact .table paths ((settled.named_iff taken).mpr named)
        ((settled.getText_iff taken (by decide)).mp bySender)
        ((settled.getText_iff taken (by decide)).mp ofText) parsed
  · rintro ⟨paths, named, bySender, ofText, parsed⟩
    have taken := (ofEntries_eq _).trans (if_pos paths)
    exact ⟨_, .table paths taken ((settled.getText_iff taken (by decide)).mpr bySender)
      ((settled.getText_iff taken (by decide)).mpr ofText) parsed,
      (settled.named_iff taken).mp named⟩

theorem readable_iff_legible (settled : Settled value) : Readable value ↔ Legible value := by
  constructor
  · rintro ⟨part, sender, message, gives⟩
    cases gives with
    | @table origin entries part sender text message paths taken bySender ofText parsed =>
      exact ⟨origin, entries, sender, text, message, rfl, paths,
        (settled.getText_iff taken (by decide)).mp bySender,
        (settled.getText_iff taken (by decide)).mp ofText, parsed⟩
  · rintro ⟨origin, entries, sender, text, message, rfl, paths, bySender, ofText, parsed⟩
    have taken := (ofEntries_eq _).trans (if_pos paths)
    exact ⟨_, sender, message, .table paths taken
      ((settled.getText_iff taken (by decide)).mpr bySender)
      ((settled.getText_iff taken (by decide)).mpr ofText) parsed⟩

theorem fails_iff_refused (settled : Settled value) :
    Fails index value failure ↔ Refused index value failure := by
  constructor
  · intro fails
    cases fails with
    | entry other => exact .entry other
    | keys spoiled => exact .keys spoiled
    | sender paths taken missing =>
      exact .sender paths ((settled.named_iff taken).mpr rfl)
        ((settled.missing_iff taken (by decide)).mp ⟨_, missing⟩) taken missing
    | message paths taken bySender missing =>
      exact .message paths ((settled.named_iff taken).mpr rfl)
        ((settled.getText_iff taken (by decide)).mp bySender)
        ((settled.missing_iff taken (by decide)).mp ⟨_, missing⟩) taken missing
    | json paths taken bySender ofText malformed =>
      exact .json paths ((settled.named_iff taken).mpr rfl)
        ((settled.getText_iff taken (by decide)).mp bySender)
        ((settled.getText_iff taken (by decide)).mp ofText) malformed
  · intro refused
    cases refused with
    | entry other => exact .entry other
    | keys spoiled => exact .keys spoiled
    | sender paths named _ taken reported =>
      rw [(settled.named_iff taken).mp named]
      exact .sender paths taken reported
    | message paths named bySender _ taken reported =>
      rw [(settled.named_iff taken).mp named]
      exact .message paths taken ((settled.getText_iff taken (by decide)).mpr bySender) reported
    | json paths named bySender ofText malformed =>
      have taken := (ofEntries_eq _).trans (if_pos paths)
      rw [(settled.named_iff taken).mp named]
      exact .json paths taken ((settled.getText_iff taken (by decide)).mpr bySender)
        ((settled.getText_iff taken (by decide)).mpr ofText) malformed

theorem ofPart_congr {part again : Config} (name : part.getText "name" = again.getText "name")
    (sender : part.getText "sender" = again.getText "sender")
    (message : part.getText "message" = again.getText "message") :
    ofPart index part = ofPart index again := by
  simp only [ofPart, name, sender, message]

/-- A settled entry is read in the same way, in whatever order its keys are visited. -/
theorem Reordered.ofValue_eq (reordered : Reordered value other) (settled : Settled value) :
    ofValue index value = ofValue index other := by
  cases reordered with
  | refl => rfl
  | @table origin entries others perm =>
    have paths_iff : entries.ArePaths ↔ others.ArePaths := by
      simp only [Entries.ArePaths, perm.mem_iff]
    by_cases paths : entries.ArePaths
    · have taken := (ofEntries_eq entries).trans (if_pos paths)
      have retaken := (ofEntries_eq others).trans (if_pos (paths_iff.mp paths))
      have same : ∀ key ∈ ["name", "sender", "message"], _ = _ := fun key member =>
        getText_reordered (isIdentifier_of_mem member) (settled origin entries rfl paths key member)
          perm taken retaken
      rw [ofValue_of_table taken, ofValue_of_table retaken]
      exact ofPart_congr (same _ (by decide)) (same _ (by decide)) (same _ (by decide))
    · rw [ofValue_of_fails (.keys paths), ofValue_of_fails (.keys (mt paths_iff.mpr paths))]

/-! ## All entries -/

variable {values others : List Value} {scenarios : List Scenario}

theorem ofValues_reordered {start : Nat} (reordered : List.Forall₂ Reordered values others)
    (settled : ∀ value ∈ values, Settled value) :
    ofValues start values = ofValues start others := by
  induction reordered generalizing start with
  | nil => rfl
  | cons here _ ih =>
    rw [List.forall_mem_cons] at settled
    rw [ofValues, ofValues, here.ofValue_eq settled.1, ih settled.2]

/-- What fails in front of a list fails whatever follows. -/
theorem ofValues_of_take {start length : Nat}
    (failed : ofValues start (values.take length) = .error failure) :
    ofValues start values = .error failure := by
  induction values generalizing start length with
  | nil => simpa using failed
  | cons value rest ih =>
    cases length with
    | zero => cases failed
    | succ length =>
      rw [List.take_succ_cons, ofValues] at failed
      rw [ofValues]
      cases read : ofValue start value with
      | error cause => simpa [read] using failed
      | ok scenario =>
        cases behind : ofValues (start + 1) (rest.take length) with
        | error cause =>
          obtain rfl : cause = failure := by simpa [read, behind, Except.map] using failed
          simp only [ih behind, Except.map]
        | ok scenarios => simp [read, behind, Except.map] at failed

theorem firstFails_iff_firstRefused (settled : ∀ value ∈ values, Settled value) {index : Nat} :
    FirstFails 0 values index failure ↔ FirstRefused values index failure := by
  unfold FirstFails FirstRefused
  refine exists_congr fun value => and_congr_right fun there => ?_
  have here := settled value (List.mem_of_getElem? there)
  rw [Nat.zero_add, fails_iff_refused here]
  exact and_congr_right fun _ => forall₂_congr fun earlier member =>
    readable_iff_legible (settled earlier (List.mem_of_mem_take member))

/-- A list of settled values is read if every entry is legible, and each entry gives the scenario
that it shows at its place. Otherwise the first entry that is refused decides the failure, whatever
stands behind it. And in whatever order the keys of the tables are visited, the outcome is the
same. -/
theorem ofConfig_listed {config : Config} {origin : Option Origin}
    (listed : config.value? ⟨"scenario", []⟩ = some (.array origin values))
    (settled : ∀ value ∈ values, Settled value) :
    ofConfig config ≠ .ok none ∧
    ((∃ scenarios, ofConfig config = .ok (some scenarios)) ↔ ∀ value ∈ values, Legible value) ∧
    (∀ scenarios, ofConfig config = .ok (some scenarios) →
      scenarios.length = values.length ∧
      ∀ index value, values[index]? = some value →
        ∃ scenario, scenarios[index]? = some scenario ∧
          ∀ other, Shows index value other ↔ other = scenario) ∧
    (∀ failure, ofConfig config = .error failure ↔
      ∃ index, FirstRefused values index failure) ∧
    (∀ index failure, FirstRefused values index failure →
      ∀ (other : Config) (place : Option Origin) (others : List Value),
        other.value? ⟨"scenario", []⟩ = some (.array place others) →
        List.Forall₂ Reordered (values.take (index + 1)) (others.take (index + 1)) →
          ofConfig other = .error failure) ∧
    (∀ (other : Config) (place : Option Origin) (others : List Value),
      other.value? ⟨"scenario", []⟩ = some (.array place others) →
      List.Forall₂ Reordered values others → ofConfig other = ofConfig config) := by
  refine ⟨fun none => ?_, ?_, fun scenarios read => ?_, fun failure => ?_, ?_, ?_⟩
  · exact (eq_none_iff_of_ofConfig none).mp rfl origin values listed
  · have legible : (∀ value ∈ values, Legible value) ↔ ∀ value, value ∈ values → Readable value :=
      forall₂_congr fun value member => (readable_iff_legible (settled value member)).symm
    rw [legible, ← exists_each_iff 0]
    exact exists_congr fun _ => ofConfig_eq_ok_iff listed
  · have each := (ofConfig_eq_ok_iff listed).mp read
    refine ⟨by simpa using each.length_eq.symm, fun index value there => ?_⟩
    have related := forall₂_iff_getElem?.mp each index
    rw [List.getElem?_zipIdx, there, Option.map_some, Nat.zero_add] at related
    generalize scenarios[index]? = scenario? at related ⊢
    cases related with
    | some reads =>
      refine ⟨_, rfl, fun other => ?_⟩
      rw [← reads_iff_shows (settled value (List.mem_of_getElem? there))]
      exact ⟨fun also => also.unique reads, fun same => same ▸ reads⟩
  · rw [ofConfig_eq_error_iff listed]
    exact exists_congr fun index => firstFails_iff_firstRefused settled
  · intro index failure refused other place others relisted reordered
    have first := (firstFails_iff_firstRefused settled).mpr refused
    -- the list fails within the entries that are the same
    have front : ofValues 0 (values.take (index + 1)) = .error failure :=
      ofValues_of_firstFails (first.congr (by rw [List.take_take, Nat.min_self]))
    rw [ofValues_reordered reordered fun value member =>
      settled value (List.mem_of_mem_take member)] at front
    rw [ofConfig_of_listed relisted, ofValues_of_take front]
    rfl
  · intro other place others relisted reordered
    rw [ofConfig_of_listed relisted, ofConfig_of_listed listed,
      ofValues_reordered reordered settled]

/-- Entries of which two overlap, neither of them at a key of a scenario. The sender is a truth
value, and the name is no text. -/
def namelessEntries : Entries :=
  [("name.short", .scalar none (.integer 1)), ("note", .scalar none (.integer 2)),
    ("note.more", .scalar none (.integer 3)), ("sender", .scalar none (.boolean true)),
    ("message", .scalar none (.text Message.empty.text))]

theorem settled_namelessEntries : Settled (.table none namelessEntries) := by
  rintro origin entries ⟨⟩ _ key member
  have name : Entries.under namelessEntries "name" =
      [("name.short", .scalar none (.integer 1))] := by
    cbv
  have sender : Entries.under namelessEntries "sender" =
      [("sender", .scalar none (.boolean true))] := by
    cbv
  have message : Entries.under namelessEntries "message" =
      [("message", .scalar none (.text Message.empty.text))] := by
    cbv
  simp only [List.mem_cons, List.not_mem_nil, or_false] at member
  obtain rfl | rfl | rfl := member
  · exact name ▸ List.pairwise_singleton ..
  · exact sender ▸ List.pairwise_singleton ..
  · exact message ▸ List.pairwise_singleton ..

theorem arePaths_namelessEntries : Entries.ArePaths namelessEntries := by
  have paths : namelessEntries.all fun entry => (Path.ofText? entry.1).isSome := by cbv
  exact List.all_eq_true.mp paths

theorem shows_namelessEntries :
    Shows 0 (.table none namelessEntries)
      { name := "scenario 0", sender := "true", message := .empty } := by
  have unnamed : ∀ text, ¬ Entries.Holds namelessEntries "name" text := by
    rintro text ⟨value, member, _⟩
    simp [namelessEntries] at member
  exact .table arePaths_namelessEntries (.inr ⟨unnamed, by decide⟩)
    ⟨.scalar none (.boolean true), by simp [namelessEntries], rfl⟩
    ⟨.scalar none (.text Message.empty.text), by simp [namelessEntries], rfl⟩
    (Message.read_text_eq .empty)

theorem legible_namelessEntries : Legible (.table none namelessEntries) := by
  rw [← readable_iff_legible settled_namelessEntries, readable_iff 0]
  exact ⟨_, (reads_iff_shows settled_namelessEntries).mpr shows_namelessEntries⟩

/-- A list of one entry is read, in whatever order its keys are visited; with a number behind it,
the number is at fault, though an entry that is at fault as well follows. -/
theorem ofConfig_listed_nameless :
    let entry : Value := .table none namelessEntries
    let scenario : Scenario := { name := "scenario 0", sender := "true", message := .empty }
    let more : List Value := [entry, .scalar none (.integer 5), .table none []]
    (∀ values, (configOfList values).value? ⟨"scenario", []⟩ = some (.array none values)) ∧
    (∀ value ∈ more, Settled value) ∧
    ofConfig (configOfList [entry]) = .ok (some [scenario]) ∧
    ofConfig (configOfList [.table none namelessEntries.reverse]) = .ok (some [scenario]) ∧
    ofConfig (configOfList more) =
      .error (.badEntry 1 ⟨.scalar (.integer 5), .table, none, none⟩) := by
  intro entry scenario more
  have listed : ∀ values : List Value,
      (configOfList values).value? ⟨"scenario", []⟩ = some (.array none values) := fun _ => rfl
  have single : ∀ value ∈ [entry], Settled value :=
    fun value member => List.mem_singleton.mp member ▸ settled_namelessEntries
  have settled : ∀ value ∈ more, Settled value := by
    refine List.forall_mem_cons.mpr ⟨settled_namelessEntries, List.forall_mem_cons.mpr ⟨nofun, ?_⟩⟩
    rintro value member origin entries rfl _ key _
    cases List.mem_singleton.mp member
    exact .nil
  have legible : ∀ value ∈ [entry], Legible value :=
    fun value member => List.mem_singleton.mp member ▸ legible_namelessEntries
  obtain ⟨_, ok_iff, each, _, _, visits⟩ := ofConfig_listed (listed [entry]) single
  obtain ⟨scenarios, read⟩ := ok_iff.mpr legible
  obtain ⟨length, at_place⟩ := each scenarios read
  obtain ⟨found, rfl⟩ := List.length_eq_one_iff.mp length
  obtain ⟨_, there, only⟩ := at_place 0 entry rfl
  cases there
  obtain rfl : scenario = found := (only _).mp shows_namelessEntries
  refine ⟨listed, settled, read, ?_, ?_⟩
  · rw [visits _ _ _ (listed _) (.cons (.table none (List.reverse_perm _).symm) .nil), read]
  · exact ((ofConfig_listed (listed more) settled).2.2.2.1 _).mpr
      ⟨1, _, rfl, .entry fun _ _ => nofun, legible⟩

def overlappingEntries : Entries :=
  [("sender", .scalar none (.text "SIM_BLE")), ("sender.x", .scalar none (.integer 1)),
    ("message", .scalar none (.text Message.empty.text))]

theorem arePaths_overlappingEntries : Entries.ArePaths overlappingEntries := by
  have paths : overlappingEntries.all fun entry => (Path.ofText? entry.1).isSome := by cbv
  exact List.all_eq_true.mp paths

/-- In general the order in which keys are visited matters: an entry that holds all that a scenario
needs is refused if something is set below its sender afterwards. -/
theorem ofConfig_order_matters :
    Legible (.table none overlappingEntries) ∧ (overlappingEntries.map Prod.fst).Nodup ∧
      ofConfig (configOfList [.table none overlappingEntries]) =
        .error (.noSender "scenario 0" (.wrongKind ⟨.map, .text, some "sender", none⟩)) ∧
      ofConfig (configOfList [.table none overlappingEntries.reverse]) =
        .ok (some [{ name := "scenario 0", sender := "SIM_BLE", message := .empty }]) := by
  have parsed := Message.read_text_eq .empty
  have paths := arePaths_overlappingEntries
  have pathsToo : Entries.ArePaths overlappingEntries.reverse :=
    fun entry member => paths entry (List.mem_reverse.mp member)
  refine ⟨?_, by decide, ?_, ?_⟩
  · exact ⟨none, overlappingEntries, "SIM_BLE", Message.empty.text, .empty, rfl, paths,
      ⟨.scalar none (.text "SIM_BLE"), by simp [overlappingEntries], rfl⟩,
      ⟨.scalar none (.text Message.empty.text), by simp [overlappingEntries], rfl⟩, parsed⟩
  · have taken := (ofEntries_eq _).trans (if_pos paths)
    generalize made : setAll {} (Overrides.noteAll [] _) = part at taken
    have missing : part.getText "sender" =
        .error (.wrongKind ⟨.map, .text, some "sender", none⟩) := by
      rw [← made]
      cbv
    have named : title 0 part = "scenario 0" := by
      rw [← made]
      cbv
    rw [ofConfig_of_listed rfl, ofValues, ofValue_of_table taken, ofPart_noSender missing, named]
    rfl
  · have taken := (ofEntries_eq _).trans (if_pos pathsToo)
    generalize made : setAll {} (Overrides.noteAll [] _) = part at taken
    have bySender : part.getText "sender" = .ok "SIM_BLE" := by
      rw [← made]
      cbv
    have ofText : part.getText "message" = .ok Message.empty.text := by
      rw [← made]
      cbv
    have named : title 0 part = "scenario 0" := by
      rw [← made]
      cbv
    rw [ofConfig_of_listed rfl, ofValues, ofValue_of_table taken, ofPart_ok bySender ofText parsed,
      named]
    rfl

end GatewaySim.Scenario
