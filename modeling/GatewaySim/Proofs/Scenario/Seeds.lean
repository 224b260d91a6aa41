import GatewaySim.Proofs.Json.Writing
import GatewaySim.Proofs.Message.Arrays
import GatewaySim.Proofs.Scenario.Listed
import Mathlib

/-! # Seeds that are no objects

The message of a listed scenario is to be the text of a JSON object. Any other text makes the list
fail, with one exception: an array of no more texts and nulls than there are fields is taken for a
message all the same (`ofConfig_seed_no_object`, `ofConfig_takes_array`).
-/

namespace GatewaySim.Scenario

open Config

variable {config part : Config} {origin place : Option Origin} {values : List Value}
  {entries : Entries} {index : Nat} {sender text : String}

theorem arePaths_of_ofEntries (taken : Config.ofEntries entries = .ok part) : entries.ArePaths := by
  by_contra spoiled
  rw [ofEntries_eq, if_neg spoiled] at taken
  cases taken

/-- Where all entries before a scenario can be read and its message is a text that is no JSON
object, the list fails for that message, unless the text is an array of texts and nulls, one for
each field at most. Such an array gives a scenario whose message holds them in wire order. -/
theorem ofConfig_seed_no_object
    (listed : config.value? ⟨"scenario", []⟩ = some (.array origin values))
    (here : values[index]? = some (.table place entries))
    (earlier : ∀ value, value ∈ values.take index → Readable value)
    (taken : Config.ofEntries entries = .ok part) (bySender : part.getText "sender" = .ok sender)
    (ofText : part.getText "message" = .ok text)
    (other : ¬ Json.FormedText .object text.toList) :
    ((∀ contents, ¬ Message.FieldArray contents text.toList) →
      ∃ cause, ofConfig config = .error (.badMessage (title index part) cause) ∧
        (Failure.badMessage (title index part) cause).message =
          "Bad message JSON in scenario '" ++ title index part ++ "'") ∧
    (∀ contents, Message.FieldArray contents text.toList →
      ∃ message, message.HoldsInOrder contents ∧
        Reads index (.table place entries) ⟨title index part, sender, message⟩) := by
  have paths := arePaths_of_ofEntries taken
  constructor
  · intro none
    cases read : Message.read text with
    | error cause =>
      have fails :
          Fails (0 + index) (.table place entries) (.badMessage (title index part) cause) :=
        (Nat.zero_add index).symm ▸ .json paths taken bySender ofText read
      exact ⟨cause, (ofConfig_eq_error_iff listed).mpr ⟨index, _, here, fails, earlier⟩, rfl⟩
    | ok message =>
      obtain ⟨contents, array, _⟩ := (Message.read_eq_ok_iff_of_no_object other).mp read
      exact absurd array (none contents)
  · intro contents array
    have holds := Message.holdsInOrder_fill contents
    have read := (Message.read_eq_ok_iff_of_no_object other).mpr ⟨contents, array, holds⟩
    exact ⟨_, holds, part, .table paths taken bySender ofText read, rfl⟩

/-! ## Seeds of one scenario -/

def seedEntries (text : String) : Entries :=
  [("name", .scalar none (.text "first")), ("sender", .scalar none (.text "SIM_BLE")),
    ("message", .scalar none (.text text))]

def configOfSeed (text : String) : Config := configOfList [.table none (seedEntries text)]

theorem value?_configOfSeed (text : String) :
    (configOfSeed text).value? ⟨"scenario", []⟩ =
      some (.array none [.table none (seedEntries text)]) := rfl

theorem getElem?_seeds (text : String) :
    [Value.table none (seedEntries text)][0]? = some (.table none (seedEntries text)) := rfl

theorem exists_seedPart (text : String) :
    ∃ part, Config.ofEntries (seedEntries text) = .ok part ∧
      part.getText "sender" = .ok "SIM_BLE" ∧ part.getText "message" = .ok text ∧
      title 0 part = "first" := by
  have keys : (seedEntries text).map Prod.fst = ["name", "sender", "message"] := rfl
  have each : ∀ key, key ∈ (seedEntries text).map Prod.fst → IsIdentifier key := by
    rw [keys]
    decide
  have nodup : ((seedEntries text).map Prod.fst).Nodup := by
    rw [keys]
    decide
  obtain ⟨part, taken, found⟩ := exists_part_of_identifiers each nodup
  refine ⟨part, taken, found _ none _ (by simp [seedEntries]),
    found _ none _ (by simp [seedEntries]), ?_⟩
  rw [title, found "name" none "first" (by simp [seedEntries])]
  rfl

/-- An array of one text. -/
theorem fieldArray_ble : Message.FieldArray [some "BLE"] "[\"BLE\"]".toList := by
  have spelled : "[\"BLE\"]".toList = '[' :: (Json.quoted "BLE" ++ [']']) := by decide
  refine ⟨by decide, ?_⟩
  rw [spelled]
  exact .element .none
    (.array (.lastItem (.element .none (Json.Document.written_quoted "BLE" _) .none))) .none

/-- A list whose only message is a number fails for it; one whose only message is an array of one
text is read. -/
theorem ofConfig_seed_no_object_first :
    ¬ Json.FormedText .object "7".toList ∧
    (∃ cause, ofConfig (configOfSeed "7") = .error (.badMessage "first" cause) ∧
      (Failure.badMessage "first" cause).message = "Bad message JSON in scenario 'first'") ∧
    ¬ Json.FormedText .object "[\"BLE\"]".toList ∧
    ∃ message, message.get .src = some "BLE" ∧
      Reads 0 (.table none (seedEntries "[\"BLE\"]"))
        { name := "first", sender := "SIM_BLE", message } := by
  have seven : Json.skipBlanks "7".toList = ['7'] := rfl
  have number : ¬ Json.FormedText .object "7".toList := by
    intro object
    obtain ⟨more, brace⟩ := Message.brace_of_object object
    cases seven.symm.trans brace
  have no_array : ∀ contents, ¬ Message.FieldArray contents "7".toList := by
    intro contents array
    obtain ⟨more, bracket⟩ := array.bracket
    cases seven.symm.trans bracket
  refine ⟨number, ?_, fieldArray_ble.not_object, ?_⟩
  · obtain ⟨part, taken, bySender, ofText, named⟩ := exists_seedPart "7"
    obtain ⟨failed, _⟩ := ofConfig_seed_no_object (value?_configOfSeed "7") (getElem?_seeds "7")
      nofun taken bySender ofText number
    rw [named] at failed
    exact failed no_array
  · obtain ⟨part, taken, bySender, ofText, named⟩ := exists_seedPart "[\"BLE\"]"
    obtain ⟨_, given⟩ := ofConfig_seed_no_object (value?_configOfSeed _) (getElem?_seeds _)
      nofun taken bySender ofText fieldArray_ble.not_object
    obtain ⟨message, holds, reads⟩ := given _ fieldArray_ble
    rw [named] at reads
    exact ⟨message, holds 0 .src rfl, reads⟩

/-- Not every list with a message that is no JSON object fails for it. -/
theorem ofConfig_takes_array :
    ¬ ∀ (config : Config) (origin place : Option Origin) (values : List Value)
        (entries : Entries) (part : Config) (index : Nat) (sender text : String),
      config.value? ⟨"scenario", []⟩ = some (.array origin values) →
      values[index]? = some (.table place entries) →
      (∀ value, value ∈ values.take index → Readable value) →
      Config.ofEntries entries = .ok part → part.getText "sender" = .ok sender →
      part.getText "message" = .ok text → ¬ Json.FormedText .object text.toList →
        ∃ cause, ofConfig config = .error (.badMessage (title index part) cause) := by
  intro always
  obtain ⟨part, taken, bySender, ofText, named⟩ := exists_seedPart "[\"BLE\"]"
  have listed := value?_configOfSeed "[\"BLE\"]"
  obtain ⟨cause, failed⟩ := always _ _ _ _ _ _ _ _ _ listed (getElem?_seeds _) nofun taken bySender
    ofText fieldArray_ble.not_object
  have parsed := Message.read_of_fieldArray fieldArray_ble (Message.holdsInOrder_fill _)
  have gives : Gives (.table none (seedEntries "[\"BLE\"]")) part "SIM_BLE" _ :=
    .table (arePaths_of_ofEntries taken) taken bySender ofText parsed
  have each : Each 0 [.table none (seedEntries "[\"BLE\"]")]
      [{ name := title 0 part, sender := "SIM_BLE", message := _ }] :=
    .cons ⟨part, gives, rfl⟩ .nil
  cases failed.symm.trans ((ofConfig_eq_ok_iff listed).mpr each)

end GatewaySim.Scenario
