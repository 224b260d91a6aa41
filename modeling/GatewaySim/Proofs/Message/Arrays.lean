import GatewaySim.Proofs.Message.Objects
import Mathlib.Data.List.Nodup

/-! # Messages that are no objects

What is read as a message is a JSON object, or else an array of no more texts and nulls than there
are fields, which are taken as the fields in wire order (`read_eq_ok_iff_of_no_object`). No other
text is a message: none that is another value, and none that is not JSON.
-/

namespace GatewaySim

theorem Field.nodup_all : all.Nodup := by
  decide

namespace Message

open Json

variable {text rest : List Char} {first : Bool} {seen : List Field} {read m : Message}

def fieldTree (content : Option String) : Tree := content.elim .null .text

theorem written_of_readValue {content : Option String} {left : Rest text}
    (found : readValue text = .ok (content, left)) :
    ∃ start, Blanks text start ∧ Written (.value (fieldTree content)) start left.1 := by
  unfold readValue at found
  split at found
  next => cases found
  next here =>
    have blanks := blanks_of_next here
    split at found
    next quote =>
      split at found
      next => cases found
      next spelled =>
        cases found
        subst quote
        exact ⟨_, blanks, .text (spelled_of_readText spelled)⟩
    next =>
      split at found
      next letter =>
        split at found
        next => cases found
        next keyword =>
          cases found
          subst letter
          rw [eq_append_of_readKeyword keyword] at blanks
          exact ⟨_, blanks, .null⟩
      next => cases found

/-! ## Objects -/

/-- What the members of a message are read from are members of a JSON object. -/
theorem membersLeft_of_readMembers (taken : readMembers first seen read text = .ok (m, rest)) :
    MembersLeft first text rest := by
  fun_induction readMembers first seen read text with
  | case2 first seen read text left closed =>
    cases taken
    exact .inl (found_of_nextMember closed)
  | case6 first seen read text name key step field known fresh value separated content behind given
      ih =>
    obtain ⟨start, quoted, opens, before, spelled⟩ := found_of_nextMember step
    obtain ⟨_, lead, written⟩ := written_of_readValue given
    have member : Formed .member start behind.1 :=
      .member before (quoted_of_spelled spelled) (blanks_of_readColon separated)
        (.element lead (formed_of_written written) .none)
    exact .inr ⟨start, opens, (ih taken).members member⟩
  | case9 first seen read text name key step unknown value separated behind skipped ih =>
    obtain ⟨start, quoted, opens, before, spelled⟩ := found_of_nextMember step
    obtain ⟨kind, element⟩ := formed_of_skipValue skipped
    have member : Formed .member start behind :=
      .member before (quoted_of_spelled spelled) (blanks_of_readColon separated) element
    exact .inr ⟨start, opens, (ih taken).members member⟩
  | case1 | case3 | case4 | case5 | case7 | case8 => cases taken

/-! ## Arrays -/

def fill (read : Message) (fields : List Field) (contents : List (Option String)) : Message :=
  (fields.zip contents).foldl (fun read item => read.put item.1 item.2) read

theorem readItems_eq_ok_iff {fields : List Field} :
    readItems first read fields text = .ok (m, rest) ↔
      ∃ contents : List (Option String), contents.length ≤ fields.length ∧
        ItemsLeft first (contents.map fieldTree) text rest ∧ m = fill read fields contents := by
  induction fields generalizing first read text with
  | nil =>
    constructor
    · intro taken
      rw [readItems] at taken
      cases closed : readArrayEnd text with
      | error e =>
        rw [closed] at taken
        cases taken
      | ok left =>
        rw [closed] at taken
        cases taken
        exact ⟨[], Nat.le_refl _, .close (readArrayEnd_eq_ok_iff.mp closed), rfl⟩
    · rintro ⟨contents, short, left, rfl⟩
      cases List.eq_nil_of_length_eq_zero (Nat.le_zero.mp short)
      rw [readItems, readArrayEnd_eq_ok_iff.mpr (itemsLeft_nil.mp left)]
      rfl
  | cons field fields ih =>
    constructor
    · intro taken
      rw [readItems] at taken
      split at taken
      next => cases taken
      next closed =>
        cases taken
        exact ⟨[], Nat.zero_le _, .close (found_of_nextItem closed), rfl⟩
      next start begun =>
        split at taken
        next => cases taken
        next content behind given =>
          obtain ⟨lead, blanks, written⟩ := written_of_readValue given
          obtain ⟨contents, short, left, rfl⟩ := ih.mp taken
          refine ⟨content :: contents, Nat.succ_le_succ short, itemsLeft_cons.mpr ?_, rfl⟩
          exact ⟨_, _, _, found_of_nextItem begun, blanks, written, left⟩
    · rintro ⟨contents, short, left, rfl⟩
      rw [readItems]
      cases contents with
      | nil =>
        obtain ⟨_, closed⟩ := nextItem_of_close first (itemsLeft_nil.mp left)
        rw [closed]
        rfl
      | cons content contents =>
        obtain ⟨start, lead, behind, opens, blanks, written, left⟩ := itemsLeft_cons.mp left
        obtain ⟨c, more, rfl, solid, other⟩ := exists_head_of_writtenValue written
        obtain ⟨_, begun⟩ := nextItem_of_item opens blanks solid other
        obtain ⟨_, given⟩ := readValue_of_ok blanks written (Tree.fieldValue_eq_ok_iff.mpr rfl)
        rw [begun]
        dsimp only
        rw [given]
        exact ih.mpr ⟨contents, Nat.le_of_succ_le_succ short, left, rfl⟩

/-- The contents that a message holds, in wire order: as far as there are any, one for each
field. -/
def HoldsInOrder (m : Message) (contents : List (Option String)) : Prop :=
  ∀ (place : Nat) (field : Field), Field.all[place]? = some field →
    m.get field = (contents[place]?).getD none

theorem get_fill_of_notMem {fields : List Field} {field : Field} (apart : field ∉ fields)
    (read : Message) (contents : List (Option String)) :
    (fill read fields contents).get field = read.get field := by
  induction fields generalizing read contents with
  | nil => rfl
  | cons other fields ih =>
    rw [List.mem_cons, not_or] at apart
    cases contents with
    | nil => rfl
    | cons content contents =>
      exact (ih apart.2 (read.put other content) contents).trans
        ((get_put ..).trans (if_neg apart.1))

theorem get_fill {fields : List Field} (nodup : fields.Nodup) {place : Nat} {field : Field}
    (here : fields[place]? = some field) (read : Message) (contents : List (Option String)) :
    (fill read fields contents).get field = (contents[place]?).getD (read.get field) := by
  induction fields generalizing read contents place with
  | nil => cases here
  | cons other fields ih =>
    obtain ⟨fresh, nodup⟩ := List.nodup_cons.mp nodup
    cases contents with
    | nil => rfl
    | cons content contents =>
      change (fill (read.put other content) fields contents).get field = _
      cases place with
      | zero =>
        cases here
        rw [get_fill_of_notMem fresh, get_put, if_pos rfl]
        rfl
      | succ place =>
        have apart : field ≠ other := by
          rintro rfl
          exact fresh (List.mem_of_getElem? here)
        rw [ih nodup here, get_put, if_neg apart]
        rfl

theorem holdsInOrder_fill (contents : List (Option String)) :
    HoldsInOrder (fill empty Field.all contents) contents := by
  intro place field here
  rw [get_fill Field.nodup_all here, get_empty]

theorem HoldsInOrder.eq_fill {contents : List (Option String)} (holds : HoldsInOrder m contents) :
    m = fill empty Field.all contents := by
  refine ext_get fun field => ?_
  obtain ⟨place, here⟩ := List.mem_iff_getElem?.mp field.mem_all
  rw [holds place field here, holdsInOrder_fill contents place field here]

/-! ## All texts -/

/-- The text is an array of no more texts and nulls than there are fields, with these contents. -/
def FieldArray (contents : List (Option String)) (text : List Char) : Prop :=
  contents.length ≤ Field.all.length ∧ WrittenText (.array (contents.map fieldTree)) text

/-- What is read as a message is an object or an array. -/
theorem object_or_array_of_readFrom (taken : readFrom text = .ok (m, rest)) :
    Formed (.element .object) text rest ∨
      ∃ start contents, Blanks text ('[' :: start) ∧
        contents.length ≤ Field.all.length ∧
        ItemsLeft true (contents.map fieldTree) start rest ∧
        m = fill empty Field.all contents := by
  unfold readFrom at taken
  split at taken
  next => cases taken
  next found =>
    have blanks := blanks_of_next found
    split at taken
    next brace =>
      subst brace
      left
      rcases membersLeft_of_readMembers taken with close | ⟨start, opens, within⟩
      · exact .element blanks (.emptyObject close) .none
      · cases opens
        exact .element blanks (.object within) .none
    next =>
      split at taken
      next bracket =>
        subst bracket
        obtain ⟨contents, short, left, filled⟩ := readItems_eq_ok_iff.mp taken
        exact .inr ⟨_, contents, blanks, short, left, filled⟩
      next => cases taken

theorem object_or_fieldArray_of_read {text : String} (taken : Message.read text = .ok m) :
    FormedText .object text.toList ∨
      ∃ contents, FieldArray contents text.toList ∧ HoldsInOrder m contents := by
  unfold Message.read at taken
  split at taken
  next => cases taken
  next message rest found =>
    split at taken
    next => cases taken
    next ended =>
      cases taken
      have after := blanks_of_readEnd ended
      rcases object_or_array_of_readFrom found with object | array
      · exact .inl (object.element_blanks after)
      · obtain ⟨start, contents, before, short, left, rfl⟩ := array
        refine .inr ⟨contents, ⟨short, ?_⟩, holdsInOrder_fill contents⟩
        exact writtenText_array_iff.mpr ⟨start, rest, before, left, after⟩

theorem read_of_fieldArray {text : String} {contents : List (Option String)}
    (array : FieldArray contents text.toList) (holds : HoldsInOrder m contents) :
    Message.read text = .ok m := by
  obtain ⟨short, written⟩ := array
  obtain ⟨start, behind, before, left, after⟩ := writtenText_array_iff.mp written
  obtain ⟨_, bracket⟩ := next_of_blanks before rfl
  have from_eq : readFrom text.toList = .ok (fill empty Field.all contents, behind) := by
    rw [readFrom, bracket]
    exact readItems_eq_ok_iff.mpr ⟨contents, short, left, rfl⟩
  have ended := readEnd_of_blanks after
  simp only [Message.read, from_eq, ended, holds.eq_fill]

theorem brace_of_object (object : FormedText .object text) :
    ∃ more, skipBlanks text = '{' :: more := by
  cases object with
  | element before value =>
    obtain ⟨more, rfl⟩ := exists_brace_of_object value
    exact ⟨more, skipBlanks_of_blanks before⟩

theorem FieldArray.bracket {contents : List (Option String)} (array : FieldArray contents text) :
    ∃ more, skipBlanks text = '[' :: more := by
  obtain ⟨more, behind, before, _⟩ := writtenText_array_iff.mp array.2
  exact ⟨more, skipBlanks_of_blanks before⟩

/-- An array is no object. -/
theorem FieldArray.not_object {contents : List (Option String)}
    (array : FieldArray contents text) : ¬ FormedText .object text := by
  intro object
  obtain ⟨more, brace⟩ := brace_of_object object
  obtain ⟨other, bracket⟩ := array.bracket
  cases brace.symm.trans bracket

/-- A text that is no JSON object is a message exactly if it is an array of no more texts and nulls
than there are fields; the message holds them in wire order. -/
theorem read_eq_ok_iff_of_no_object {text : String} (other : ¬ FormedText .object text.toList) :
    Message.read text = .ok m ↔
      ∃ contents, FieldArray contents text.toList ∧ HoldsInOrder m contents :=
  ⟨fun taken => (object_or_fieldArray_of_read taken).resolve_left other,
    fun ⟨_, array, holds⟩ => read_of_fieldArray array holds⟩

end Message

end GatewaySim
