import GatewaySim.Proofs.Json.Numerals
import GatewaySim.Proofs.Json.Strings
import GatewaySim.Proofs.Json.Writing

/-! # The indented layout

The indented form of a document gives away the document (`prettyText_injective`). Each part of it
can be told from what follows it: a text by its closing quote, a number because no digit follows,
a container by its closing mark, before which no entry is left on the line.
-/

namespace GatewaySim.Json

/-- A quoted text ends at the first quote that is not escaped. -/
theorem quoted_append_inj {s t : String} {rest others : List Char}
    (same : quoted s ++ rest = quoted t ++ others) : s = t ∧ rest = others := by
  have read (value : String) (rest : List Char) :
      readTextFrom [] (escape value.toList ++ '"' :: rest) = .ok (value.toList, rest) := by
    rw [readTextFrom_of_spelled (spelled_escape _ _), readTextFrom, if_pos rfl, List.append_nil,
      List.reverse_reverse]
  simp only [quoted, List.cons_append, List.append_assoc, List.nil_append, List.cons.injEq,
    true_and] at same
  have both := (read s rest).symm.trans (same ▸ read t others)
  obtain ⟨texts, rests⟩ := Prod.mk.inj (Except.ok.inj both)
  exact ⟨String.toList_injective texts, rests⟩

namespace Document

/-! ## Containers -/

def moreLines {α : Type} (form : α → List Char) (depth : Nat) (entries : List α) : List Char :=
  entries.flatMap fun entry => ',' :: (newLine depth ++ form entry)

def container {α : Type} (form : Nat → α → List Char) (depth : Nat) (close : Char) :
    List α → List Char
  | [] => [close]
  | first :: rest =>
    newLine (depth + 1) ++ form (depth + 1) first ++
      moreLines (form (depth + 1)) (depth + 1) rest ++ newLine depth ++ [close]

def prettyMember (depth : Nat) (member : String × Document) : List Char :=
  quoted member.1 ++ ':' :: ' ' :: prettyAt depth member.2

theorem prettyItems_cons (depth : Nat) (item : Document) (rest : List Document) :
    prettyItems depth (item :: rest) =
      newLine depth ++ prettyAt depth item ++ moreLines (prettyAt depth) depth rest := by
  induction rest generalizing item with
  | nil => simp [prettyItems, moreLines]
  | cons next rest ih => rw [prettyItems, ih] <;> simp [moreLines]

theorem prettyMembers_cons (depth : Nat) (member : String × Document)
    (rest : List (String × Document)) :
    prettyMembers depth (member :: rest) =
      newLine depth ++ prettyMember depth member ++ moreLines (prettyMember depth) depth rest := by
  induction rest generalizing member with
  | nil => simp [prettyMembers, prettyMember, moreLines]
  | cons next rest ih => rw [prettyMembers, ih] <;> simp [moreLines, prettyMember]

theorem prettyAt_array (depth : Nat) (items : List Document) :
    prettyAt depth (.array items) = '[' :: container prettyAt depth ']' items := by
  cases items <;> simp [prettyAt, container, prettyItems_cons]

theorem prettyAt_object (depth : Nat) (members : List (String × Document)) :
    prettyAt depth (.object members) = '{' :: container prettyMember depth '}' members := by
  cases members <;> simp [prettyAt, container, prettyMembers_cons]

/-! ## Telling forms apart -/

/-- A written form that can be told from what follows it, as long as no digit does. -/
def Separable {α : Type} (form : α → List Char) (entry : α) : Prop :=
  ∀ (other : α) {rest more : List Char}, NoDigit rest → NoDigit more →
    form entry ++ rest = form other ++ more → entry = other ∧ rest = more

section Containers

variable {α : Type} {form : α → List Char} {depth : Nat}

theorem noDigit_moreLines (entries : List α) (rest : List Char) :
    NoDigit (moreLines form depth entries ++ '\n' :: rest) := by
  cases entries <;> exact noDigit_cons rfl _

theorem moreLines_append_inj {entries others : List α}
    (separable : ∀ entry, entry ∈ entries → Separable form entry) {rest more : List Char}
    (same : moreLines form depth entries ++ '\n' :: rest =
      moreLines form depth others ++ '\n' :: more) :
    entries = others ∧ rest = more := by
  induction entries generalizing others with
  | nil =>
    cases others with
    | nil => exact ⟨rfl, List.tail_eq_of_cons_eq same⟩
    | cons other others => exact absurd (List.head_eq_of_cons_eq same) (by decide)
  | cons entry entries ih =>
    rw [List.forall_mem_cons] at separable
    cases others with
    | nil => exact absurd (List.head_eq_of_cons_eq same) (by decide)
    | cons other others =>
      simp only [moreLines, List.flatMap_cons, List.cons_append, List.append_assoc, List.cons.injEq,
        true_and, List.append_cancel_left_eq] at same
      obtain ⟨rfl, behind⟩ :=
        separable.1 other (noDigit_moreLines entries _) (noDigit_moreLines others _) same
      obtain ⟨rfl, ends⟩ := ih separable.2 behind
      exact ⟨rfl, ends⟩

end Containers

theorem container_append_inj {α : Type} {form : Nat → α → List Char} {depth : Nat} {close : Char}
    (mark : close ≠ '\n') {entries others : List α}
    (separable : ∀ entry, entry ∈ entries → Separable (form (depth + 1)) entry)
    {rest more : List Char}
    (same : container form depth close entries ++ rest =
      container form depth close others ++ more) :
    entries = others ∧ rest = more := by
  cases entries with
  | nil =>
    cases others with
    | nil => exact ⟨rfl, List.tail_eq_of_cons_eq same⟩
    | cons other others => exact absurd (List.head_eq_of_cons_eq same) mark
  | cons entry entries =>
    cases others with
    | nil => exact absurd (List.head_eq_of_cons_eq same).symm mark
    | cons other others =>
      rw [List.forall_mem_cons] at separable
      simp only [container, List.append_assoc, List.append_cancel_left_eq] at same
      obtain ⟨rfl, behind⟩ :=
        separable.1 other (noDigit_moreLines entries _) (noDigit_moreLines others _) same
      obtain ⟨rfl, ends⟩ := moreLines_append_inj separable.2 behind
      exact ⟨rfl, List.tail_eq_of_cons_eq (List.append_cancel_left ends)⟩

theorem separable_prettyMember {depth : Nat} {member : String × Document}
    (value : Separable (prettyAt depth) member.2) : Separable (prettyMember depth) member := by
  intro other rest more stop stopToo same
  simp only [prettyMember, List.append_assoc, List.cons_append] at same
  obtain ⟨keys, behind⟩ := quoted_append_inj same
  simp only [List.cons.injEq, true_and] at behind
  obtain ⟨values, ends⟩ := value other.2 stop stopToo behind
  exact ⟨Prod.ext keys values, ends⟩

/-! ## Documents -/

def Opens (c : Char) : Document → Prop
  | .text _ => c = '"'
  | .number _ => c.isDigit
  | .array _ => c = '['
  | .object _ => c = '{'

theorem exists_opens (document : Document) (depth : Nat) :
    ∃ c behind, document.prettyAt depth = c :: behind ∧ document.Opens c := by
  cases document with
  | text value => exact ⟨_, _, by rw [prettyAt, quoted], rfl⟩
  | number value =>
    obtain ⟨first, digits, form⟩ :=
      List.exists_cons_of_ne_nil (Nat.toDigits_ne_nil (n := value) (b := 10))
    have digit : first.isDigit :=
      Nat.isDigit_of_mem_toDigits (by decide) (by decide) (form ▸ List.mem_cons_self ..)
    exact ⟨first, digits, by rw [prettyAt, form], digit⟩
  | array items => exact ⟨_, _, prettyAt_array depth items, rfl⟩
  | object members => exact ⟨_, _, prettyAt_object depth members, rfl⟩

inductive SameKind : Document → Document → Prop where
  | text (value other : String) : SameKind (.text value) (.text other)
  | number (value other : Nat) : SameKind (.number value) (.number other)
  | array (items others : List Document) : SameKind (.array items) (.array others)
  | object (members others : List (String × Document)) :
    SameKind (.object members) (.object others)

/-- The first character says what kind a document is of. -/
theorem sameKind_of_append_eq {document other : Document} {depth : Nat} {rest more : List Char}
    (same : document.prettyAt depth ++ rest = other.prettyAt depth ++ more) :
    SameKind document other := by
  obtain ⟨c, behind, form, opens⟩ := document.exists_opens depth
  obtain ⟨d, others, formToo, opensToo⟩ := other.exists_opens depth
  rw [form, formToo] at same
  cases List.head_eq_of_cons_eq same
  cases document <;> cases other <;> first | constructor | simp_all [Opens]

/-- What a document is written as in indented form says which document it is. -/
theorem separable_prettyAt (document : Document) :
    ∀ depth, Separable (prettyAt depth) document := by
  induction document using induct with
  | text value =>
    intro depth other rest more _ _ same
    cases sameKind_of_append_eq same
    obtain ⟨rfl, ends⟩ := quoted_append_inj same
    exact ⟨rfl, ends⟩
  | number value =>
    intro depth other rest more stop stopToo same
    cases sameKind_of_append_eq same
    obtain ⟨rfl, ends⟩ := toDigits_append_inj stop stopToo same
    exact ⟨rfl, ends⟩
  | array items ih =>
    intro depth other rest more _ _ same
    cases sameKind_of_append_eq same
    rw [prettyAt_array, prettyAt_array] at same
    obtain ⟨rfl, ends⟩ := container_append_inj (by decide)
      (fun item member => ih item member (depth + 1)) (List.tail_eq_of_cons_eq same)
    exact ⟨rfl, ends⟩
  | object members ih =>
    intro depth other rest more _ _ same
    cases sameKind_of_append_eq same
    rw [prettyAt_object, prettyAt_object] at same
    obtain ⟨rfl, ends⟩ := container_append_inj (by decide)
      (fun member inside => separable_prettyMember (ih member inside (depth + 1)))
      (List.tail_eq_of_cons_eq same)
    exact ⟨rfl, ends⟩

theorem prettyText_injective : Function.Injective prettyText := by
  intro document other same
  have letters : document.prettyAt 0 ++ [] = other.prettyAt 0 ++ [] := by
    rw [String.ofList_injective same]
  have stop : NoDigit [] := fun c head => by cases head
  exact (separable_prettyAt document 0 other stop stop letters).1

end Document

end GatewaySim.Json
