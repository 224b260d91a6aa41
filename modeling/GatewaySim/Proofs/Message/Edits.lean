import GatewaySim.Proofs.Message.RoundTrip
import Mathlib.Data.List.Induction
import Mathlib.Tactic.TFAE

/-! # Messages as maps

A message is a finite map from fields to texts, whatever it has been through: behind a sequence of
edits each field holds what the last edit of it has left there (`get_editAll`), a message is told by
what its fields hold (`tfae_get_eq`), and its text is the object of the fields that it lists
(`toList_text`). `last_edit_decides` puts the three together.
-/

namespace GatewaySim.Message

open Json

/-! ## Edits -/

/-- A change of one field: a text is put into it, or it is removed. -/
inductive Edit where
  | set (field : Field) (value : String)
  | erase (field : Field)

namespace Edit

def field : Edit → Field
  | .set field _ => field
  | .erase field => field

def content : Edit → Option String
  | .set _ value => some value
  | .erase _ => none

end Edit

def edit (m : Message) : Edit → Message
  | .set field value => m.set field value
  | .erase field => m.erase field

def editAll (m : Message) (edits : List Edit) : Message := edits.foldl edit m

def lastEdit? (edits : List Edit) (field : Field) : Option Edit :=
  (edits.filter fun edit => edit.field = field).getLast?

theorem get_edit (m : Message) (edit : Edit) (field : Field) :
    (m.edit edit).get field = if field = edit.field then edit.content else m.get field := by
  cases edit with
  | set other value => exact get_set m other field value
  | erase other => exact get_erase m other field

theorem lastEdit?_concat (edits : List Edit) (last : Edit) (field : Field) :
    lastEdit? (edits ++ [last]) field =
      if last.field = field then some last else lastEdit? edits field := by
  by_cases named : last.field = field <;> simp [lastEdit?, named]

/-- The last edit of a field decides what it holds; a field that no edit is about keeps its
content. -/
theorem get_editAll (m : Message) (edits : List Edit) (field : Field) :
    (m.editAll edits).get field = (lastEdit? edits field).elim (m.get field) Edit.content := by
  -- Edits are taken off at the end: either that one decides, or the field is as it was before it.
  induction edits using List.reverseRecOn with
  | nil => rfl
  | append_singleton edits last ih =>
    have step : m.editAll (edits ++ [last]) = (m.editAll edits).edit last := List.foldl_concat ..
    rw [step, get_edit, lastEdit?_concat]
    rcases eq_or_ne field last.field with rfl | other
    · rw [if_pos rfl, if_pos rfl]
      rfl
    · rw [if_neg other, if_neg other.symm, ih]

/-! ## What tells messages apart -/

theorem get_eq_of_entries_eq {m other : Message} (same : m.entries = other.entries)
    (field : Field) : m.get field = other.get field := by
  refine Option.ext fun content => ?_
  rw [← mem_entries, same, mem_entries]

/-- Messages are the same, list the same fields or have the same text exactly if they agree on every
field. -/
theorem tfae_get_eq (m other : Message) :
    [m = other, m.entries = other.entries, m.text = other.text,
      ∀ field, m.get field = other.get field].TFAE := by
  tfae_have 1 → 2 := congrArg entries
  tfae_have 1 → 3 := congrArg text
  tfae_have 2 → 4 := get_eq_of_entries_eq
  tfae_have 3 → 1 := fun same => text_injective same
  tfae_have 4 → 1 := ext_get
  tfae_finish

/-! ## Texts -/

/-- A message is written as the fields that it lists, in their order and with commas between
them. -/
theorem toList_text (m : Message) :
    m.text.toList =
      '{' :: ([','].intercalate
        (m.entries.map fun entry => quoted entry.1.key ++ ':' :: quoted entry.2) ++ ['}']) := by
  rw [text, Document.compactText, String.toList_ofList, document_eq, Document.compact,
    Document.compactMembers_eq_intercalate, List.map_map]
  simp only [Function.comp_def, Document.compact]

/-- A message is a finite map from fields to texts in which the last write wins. Behind any edits a
field holds what the last edit of it has left there, or what it held before. Two messages behind
edits are the same, list the same fields or have the same text exactly if they agree on every field.
The text is the JSON object of the fields that are listed, in that order and without blanks. -/
theorem last_edit_decides (m : Message) (edits : List Edit) :
    (∀ field, (m.editAll edits).get field =
      (lastEdit? edits field).elim (m.get field) Edit.content) ∧
    (∀ (other : Message) (changes : List Edit),
      [m.editAll edits = other.editAll changes,
        (m.editAll edits).entries = (other.editAll changes).entries,
        (m.editAll edits).text = (other.editAll changes).text,
        ∀ field, (m.editAll edits).get field = (other.editAll changes).get field].TFAE) ∧
    WrittenText
      (.object ((m.editAll edits).entries.map fun entry => (entry.1.key, .text entry.2)))
      (m.editAll edits).text.toList ∧
    (m.editAll edits).text.toList =
      '{' :: ([','].intercalate ((m.editAll edits).entries.map fun entry =>
        quoted entry.1.key ++ ':' :: quoted entry.2) ++ ['}']) :=
  ⟨get_editAll m edits, fun _ _ => tfae_get_eq _ _, writtenText_text _, toList_text _⟩

example :
    (empty.editAll
        [.set .uuid "1", .set .src "a", .erase .dest, .set .src "b", .erase .uuid]).text =
      "\x7b\"src\":\"b\"\x7d" := by
  decide

end GatewaySim.Message
