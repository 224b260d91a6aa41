import GatewaySim.Proofs.Json.Writing
import GatewaySim.Proofs.Message.Objects
import Mathlib.Data.List.Nodup

/-! # Written messages are read back

A message is written as an object with one member for each field present, so every message is read
back from its text (`read_text_eq`), whichever fields it has and whatever characters they hold.
-/

namespace GatewaySim

theorem Json.Document.memberTrees_map_text {ι : Type} (key value : ι → String) (items : List ι) :
    memberTrees (items.map fun item => (key item, .text (value item))) =
      items.map fun item => (key item, .text (value item)) := by
  induction items with
  | nil => rfl
  | cons item items ih => rw [List.map_cons, memberTrees, ih, tree, List.map_cons]

theorem Field.nodup_keys : (all.map key).Nodup := by
  decide

namespace Message

open Json

def members (m : Message) : List (String × Tree) :=
  m.entries.map fun entry => (entry.1.key, .text entry.2)

theorem tree_document (m : Message) : m.document.tree = .object m.members := by
  rw [document_eq, Document.tree, Document.memberTrees_map_text]
  rfl

theorem writtenText_text (m : Message) : WrittenText (.object m.members) m.text.toList := by
  rw [← tree_document]
  exact Document.writtenText_compactText m.document

theorem mem_entries {m : Message} {field : Field} {content : String} :
    (field, content) ∈ m.entries ↔ m.get field = some content := by
  simp [entries, Field.mem_all]

theorem mem_members {m : Message} {field : Field} {tree : Tree} :
    (field.key, tree) ∈ m.members ↔
      ∃ content, tree = .text content ∧ m.get field = some content := by
  constructor
  · intro member
    obtain ⟨⟨other, content⟩, entry, same⟩ := List.mem_map.mp member
    obtain ⟨keys, rfl⟩ := Prod.mk.inj same
    cases Field.key_injective keys
    exact ⟨content, rfl, mem_entries.mp entry⟩
  · intro given
    obtain ⟨content, rfl, present⟩ := given
    exact List.mem_map.mpr ⟨(field, content), mem_entries.mpr present, rfl⟩

/-- The keys come from the list of all fields, so none comes twice. -/
theorem nodup_keys_members (m : Message) : (m.members.map Prod.fst).Nodup := by
  have keys : m.members.map Prod.fst = (Field.all.filter m.has).map Field.key := by
    rw [members, List.map_map, entries]
    induction Field.all with
    | nil => rfl
    | cons field fields ih =>
      cases present : m.get field <;> simp_all [has]
  rw [keys]
  exact Field.nodup_keys.sublist (List.filter_sublist.map _)

theorem acceptable_members (m : Message) : Acceptable [] m.members := by
  intro field
  refine ⟨List.nodup_iff_count_le_one.mp m.nodup_keys_members field.key, ?_⟩
  intro tree member
  obtain ⟨content, text, _⟩ := mem_members.mp member
  exact .inr ⟨content, text⟩

theorem read_text_eq (m : Message) : Message.read m.text = .ok m := by
  obtain ⟨other, taken⟩ : ∃ other, ofMembers [] empty m.members = .ok other :=
    ofMembers_isOk_iff.mpr m.acceptable_members
  have agree : other = m := by
    refine ext_get fun field => Option.ext fun content => ?_
    rw [get_of_ofMembers (by simp) taken, get_empty, mem_members]
    simp
  rw [read_of_written m.writtenText_text, taken, agree]

theorem text_injective : Function.Injective Message.text := by
  intro m other same
  have read := m.read_text_eq
  rw [same, other.read_text_eq] at read
  exact (Except.ok.inj read).symm

/-- Every message is read back from its text, so different messages have different texts, and
writing what has been read from any text loses nothing. -/
theorem read_text :
    (∀ m : Message, Message.read m.text = .ok m) ∧ Function.Injective Message.text ∧
    ∀ (text : String) (m : Message), Message.read text = .ok m →
      Message.read m.text = .ok m :=
  ⟨read_text_eq, text_injective, fun _ m _ => m.read_text_eq⟩

theorem read_text_null :
    let text := "\x7b\"src\":\"\\u0000\",\"dest\":null\x7d"
    let m : Message := { src := "\x00" }
    Message.read text = .ok m ∧ m.text ≠ text ∧ Message.read m.text = .ok m := by
  intro text m
  have spelled : text.toList = '{' :: (quoted "src" ++ ':' :: (quoted "\x00" ++
      ',' :: (quoted "dest" ++ ':' :: ['n', 'u', 'l', 'l', '}']))) := by decide
  have written : WrittenText (.object [("src", .text "\x00"), ("dest", .null)]) text.toList := by
    rw [spelled]
    exact .element .none
      (.object
        (.moreMembers (Document.written_quotedMember "src" (Document.written_quoted "\x00" _))
          (.lastMember (Document.written_quotedMember "dest" .null))))
      .none
  have taken : Message.read text = .ok m := (read_of_written written).trans rfl
  exact ⟨taken, by decide, read_text.2.2 text m taken⟩

end Message

end GatewaySim
