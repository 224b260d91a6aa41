import GatewaySim.Message.Reader
import GatewaySim.Proofs.Json.Grammar
import Mathlib.Data.List.Basic

/-! # What an object says about a message

The members of an object are taken up one by one, and each may be refused. All are taken up exactly
if every field occurs at most once and only as a text or as null (`ofMembers_isOk_iff`), and then a
field holds what the member with its key says (`get_of_ofMembers`).
-/

namespace GatewaySim

namespace Json.Tree

def found : Tree → Except ReadError Found
  | .null => .ok .null
  | .boolean value => .ok (.boolean value)
  | .number negative numeral => (numeral.value negative).map Number.found
  | .text value => .ok (.text value)
  | .array _ => .ok .sequence
  | .object _ => .ok .map

def mismatch (expected : String) (tree : Tree) : ReadError :=
  match tree.found with
  | .error e => e
  | .ok found => .unexpected found expected

/-- The value of a field: a text, or null for an absent field. -/
def fieldValue : Tree → Except ReadError (Option String)
  | .null => .ok none
  | .text value => .ok (some value)
  | tree => .error (tree.mismatch "a string")

theorem fieldValue_eq_ok_iff {tree : Tree} {content : Option String} :
    tree.fieldValue = .ok content ↔ tree = content.elim .null .text := by
  cases tree <;> cases content <;> simp [fieldValue]

theorem exists_fieldValue_iff {tree : Tree} :
    (∃ content, tree.fieldValue = .ok content) ↔
      tree = .null ∨ ∃ content, tree = .text content := by
  simp only [fieldValue_eq_ok_iff]
  constructor
  · intro given
    obtain ⟨content, rfl⟩ := given
    cases content with
    | none => exact .inl rfl
    | some text => exact .inr ⟨text, rfl⟩
  · intro given
    rcases given with rfl | ⟨text, rfl⟩
    · exact ⟨none, rfl⟩
    · exact ⟨some text, rfl⟩

end Json.Tree

theorem Field.ofKey?_eq_some_iff {name : String} {field : Field} :
    ofKey? name = some field ↔ name = field.key := by
  constructor
  · intro found
    have named := List.find?_some found
    exact (of_decide_eq_true named).symm
  · intro named
    rw [named, ofKey?_key]

namespace Message

open Json

/-! ## Taking up members -/

/-- Takes up one member, given the fields that have occurred so far and what they say. Members
whose key is not that of a field say nothing. -/
def takeMember (seen : List Field) (read : Message) (member : String × Tree) :
    Except ReadError (List Field × Message) :=
  match Field.ofKey? member.1 with
  | none => .ok (seen, read)
  | some field =>
    if field ∈ seen then .error (.repeatedKey member.1)
    else
      match member.2.fieldValue with
      | .error e => .error e
      | .ok content => .ok (field :: seen, read.put field content)

/-- Takes up members in order, up to the first that is refused. -/
def ofMembers (seen : List Field) (read : Message) :
    List (String × Tree) → Except ReadError Message
  | [] => .ok read
  | member :: members =>
    match takeMember seen read member with
    | .error e => .error e
    | .ok (seen, read) => ofMembers seen read members

def occurrences (field : Field) (members : List (String × Tree)) : Nat :=
  (members.map Prod.fst).count field.key

/-- Whether members can be taken up after the given fields have occurred. -/
def Acceptable (seen : List Field) (members : List (String × Tree)) : Prop :=
  ∀ field : Field, occurrences field members ≤ (if field ∈ seen then 0 else 1) ∧
    ∀ tree, (field.key, tree) ∈ members →
      tree = .null ∨ ∃ content, tree = .text content

variable {seen : List Field} {read m : Message} {key : String} {tree : Tree}
  {members : List (String × Tree)} {field other : Field}

theorem takeMember_of_unknown (unknown : Field.ofKey? key = none) :
    takeMember seen read (key, tree) = .ok (seen, read) := by
  rw [takeMember, unknown]

theorem takeMember_of_seen (repeated : field ∈ seen) :
    takeMember seen read (field.key, tree) = .error (.repeatedKey field.key) := by
  simp only [takeMember, Field.ofKey?_key, if_pos repeated]

theorem takeMember_of_ok {content : Option String} (fresh : field ∉ seen)
    (value : tree.fieldValue = .ok content) :
    takeMember seen read (field.key, tree) = .ok (field :: seen, read.put field content) := by
  simp only [takeMember, Field.ofKey?_key, if_neg fresh, value]

theorem takeMember_of_error {e : ReadError} (fresh : field ∉ seen)
    (wrong : tree.fieldValue = .error e) :
    takeMember seen read (field.key, tree) = .error e := by
  simp only [takeMember, Field.ofKey?_key, if_neg fresh, wrong]

/-- A key is that of no field, or that of one. -/
theorem unknown_or_key (key : String) :
    Field.ofKey? key = none ∨ ∃ field : Field, key = field.key := by
  cases found : Field.ofKey? key with
  | none => exact .inl rfl
  | some field => exact .inr ⟨field, Field.ofKey?_eq_some_iff.mp found⟩

theorem key_ne_of_unknown (unknown : Field.ofKey? key = none) (field : Field) :
    key ≠ field.key := by
  intro same
  simp [same] at unknown

/-! ## Which members are taken up -/

theorem occurrences_cons_of_unknown (unknown : Field.ofKey? key = none) :
    occurrences field ((key, tree) :: members) = occurrences field members := by
  simp [occurrences, key_ne_of_unknown unknown field]

theorem occurrences_cons_key :
    occurrences other ((field.key, tree) :: members) =
      occurrences other members + if other = field then 1 else 0 := by
  by_cases same : other = field
  · simp [occurrences, same]
  · have apart : field.key ≠ other.key := fun keys => same (Field.key_injective keys).symm
    simp [occurrences, same, apart]

theorem acceptable_cons_of_unknown (unknown : Field.ofKey? key = none) :
    Acceptable seen ((key, tree) :: members) ↔ Acceptable seen members := by
  refine forall_congr' fun field => ?_
  have apart : field.key ≠ key := (key_ne_of_unknown unknown field).symm
  simp [occurrences_cons_of_unknown unknown, apart]

theorem occurrences_cons_le_iff :
    occurrences other ((field.key, tree) :: members) ≤ (if other ∈ seen then 0 else 1) ↔
      (other = field → field ∉ seen) ∧
        occurrences other members ≤ (if other ∈ field :: seen then 0 else 1) := by
  rw [occurrences_cons_key]
  by_cases same : other = field
  · subst same
    by_cases repeated : other ∈ seen <;> simp [repeated]
  · simp [same]

theorem acceptable_cons_of_key :
    Acceptable seen ((field.key, tree) :: members) ↔
      field ∉ seen ∧ (∃ content, tree.fieldValue = .ok content) ∧
        Acceptable (field :: seen) members := by
  rw [Tree.exists_fieldValue_iff]
  simp only [Acceptable, occurrences_cons_le_iff]
  constructor
  · intro acceptable
    have fresh := (acceptable field).1.1 rfl
    have value := (acceptable field).2 tree (List.mem_cons_self ..)
    refine ⟨fresh, value, fun other => ⟨(acceptable other).1.2, fun content member => ?_⟩⟩
    exact (acceptable other).2 content (List.mem_cons_of_mem _ member)
  · intro acceptable
    obtain ⟨fresh, value, acceptable⟩ := acceptable
    refine fun other => ⟨⟨fun _ => fresh, (acceptable other).1⟩, fun content member => ?_⟩
    rcases List.mem_cons.mp member with first | member
    · rw [(Prod.mk.inj first).2]
      exact value
    · exact (acceptable other).2 content member

theorem ofMembers_isOk_iff :
    (∃ m, ofMembers seen read members = .ok m) ↔ Acceptable seen members := by
  induction members generalizing seen read with
  | nil => simp [ofMembers, Acceptable, occurrences]
  | cons member members ih =>
    obtain ⟨key, tree⟩ := member
    rcases unknown_or_key key with unknown | ⟨field, rfl⟩
    · rw [acceptable_cons_of_unknown unknown]
      simp only [ofMembers, takeMember_of_unknown unknown]
      exact ih
    · rw [acceptable_cons_of_key]
      by_cases repeated : field ∈ seen
      · simp [ofMembers, takeMember_of_seen repeated, repeated]
      · cases value : tree.fieldValue with
        | error e => simp [ofMembers, takeMember_of_error repeated value]
        | ok content => simp [ofMembers, takeMember_of_ok repeated value, ih, repeated]

/-! ## What the members say -/

theorem get_of_ofMembers (fresh : ∀ field, field ∉ seen → read.get field = none)
    (taken : ofMembers seen read members = .ok m) (field : Field) (content : String) :
    m.get field = some content ↔
      read.get field = some content ∨ (field.key, .text content) ∈ members := by
  induction members generalizing seen read with
  | nil =>
    cases taken
    simp
  | cons member members ih =>
    obtain ⟨key, tree⟩ := member
    rcases unknown_or_key key with unknown | ⟨other, rfl⟩
    · have apart := key_ne_of_unknown unknown field
      simp only [ofMembers, takeMember_of_unknown unknown] at taken
      rw [ih fresh taken, List.mem_cons, Prod.mk.injEq]
      simp [apart.symm]
    · by_cases repeated : other ∈ seen
      · simp [ofMembers, takeMember_of_seen repeated] at taken
      · cases value : tree.fieldValue with
        | error e => simp [ofMembers, takeMember_of_error repeated value] at taken
        | ok given =>
          simp only [ofMembers, takeMember_of_ok repeated value] at taken
          have still : ∀ field, field ∉ other :: seen →
              (read.put other given).get field = none := by
            intro field unseen
            rw [List.mem_cons, not_or] at unseen
            rw [get_put, if_neg unseen.1, fresh field unseen.2]
          rw [ih still taken, get_put, List.mem_cons, Prod.mk.injEq]
          by_cases same : field = other
          · subst same
            have tree_eq := Tree.fieldValue_eq_ok_iff.mp value
            subst tree_eq
            rw [fresh field repeated]
            cases given <;> simp [eq_comm]
          · have apart : field.key ≠ other.key := fun keys => same (Field.key_injective keys)
            simp [same, apart]

/-! ## Members that do not matter -/

def known (members : List (String × Tree)) : List (String × Tree) :=
  members.filter fun member => (Field.ofKey? member.1).isSome

theorem mem_known : (field.key, tree) ∈ known members ↔ (field.key, tree) ∈ members := by
  simp [known]

theorem occurrences_known : occurrences field (known members) = occurrences field members := by
  induction members with
  | nil => rfl
  | cons member members ih =>
    obtain ⟨key, tree⟩ := member
    rcases unknown_or_key key with unknown | ⟨other, rfl⟩
    · rw [occurrences_cons_of_unknown unknown, ← ih]
      simp [known, unknown]
    · have kept : known ((other.key, tree) :: members) = (other.key, tree) :: known members := by
        simp [known]
      rw [kept, occurrences_cons_key, occurrences_cons_key, ih]

theorem acceptable_of_known {others : List (String × Tree)}
    (same : (known others).Perm (known members)) (acceptable : Acceptable seen members) :
    Acceptable seen others := by
  intro field
  have counted : occurrences field others = occurrences field members := calc
    occurrences field others = occurrences field (known others) := occurrences_known.symm
    _ = occurrences field (known members) := (same.map Prod.fst).count_eq field.key
    _ = occurrences field members := occurrences_known
  refine ⟨counted ▸ (acceptable field).1, fun tree member => (acceptable field).2 tree ?_⟩
  exact mem_known.mp (same.mem_iff.mp (mem_known.mpr member))

/-- What is taken up depends neither on members with other keys nor on the order. -/
theorem ofMembers_of_known {others : List (String × Tree)}
    (same : (known others).Perm (known members)) (taken : ofMembers [] empty members = .ok m) :
    ofMembers [] empty others = .ok m := by
  have acceptable : Acceptable [] members := ofMembers_isOk_iff.mp ⟨m, taken⟩
  obtain ⟨other, takenOther⟩ : ∃ other, ofMembers [] empty others = .ok other :=
    ofMembers_isOk_iff.mpr (acceptable_of_known same acceptable)
  have agree : other = m := by
    refine ext_get fun field => Option.ext fun content => ?_
    rw [get_of_ofMembers (by simp) takenOther, get_of_ofMembers (by simp) taken,
      ← mem_known, same.mem_iff, mem_known]
  rw [takenOther, agree]

end Message

end GatewaySim
