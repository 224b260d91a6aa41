import GatewaySim.Json.Skip
import GatewaySim.Proofs.Json.Numerals
import GatewaySim.Proofs.Json.Strings

/-! # Passing over values

A value that nobody asks for is passed over whatever way it is written and however deep it nests:
what is left is what follows it (`skipValue_of_written`). Passing over stops right behind the value,
but within a container the grammar takes the blanks behind an element to belong to it, so what is
left of an element is said up to blanks.
-/

namespace GatewaySim.Json

def Frame.opening : Frame → Char
  | .array => '['
  | .object => '{'

def Frame.closing : Frame → Char
  | .array => ']'
  | .object => '}'

variable {stack : List Frame} {lead text behind rest : List Char} {c : Char}

/-! ## One step of the walk

What is done with a value, or behind one, once its first character is known. -/

theorem skipValue_of_quote (blanks : Blanks lead ('"' :: text))
    (skipped : skipText text = .ok behind) : skipValue stack lead = skipBehind stack behind := by
  obtain ⟨_, found⟩ := next_of_blanks blanks rfl
  rw [skipValue, found]
  simp only [if_true]
  split
  next failed => cases skipped.symm.trans failed
  next passed => rw [Except.ok.inj (skipped.symm.trans passed)]

theorem skipValue_of_minus (blanks : Blanks lead ('-' :: text))
    (skipped : skipNumeral text = .ok behind) :
    skipValue stack lead = skipBehind stack behind := by
  obtain ⟨_, found⟩ := next_of_blanks blanks rfl
  rw [skipValue, found]
  simp only [Char.reduceEq, if_false, if_true]
  split
  next failed => cases skipped.symm.trans failed
  next passed => rw [Except.ok.inj (skipped.symm.trans passed)]

/-- Digits are no blanks, and none of the characters that begin another value. -/
theorem ne_of_isDigit (digit : c.isDigit) :
    isBlank c = false ∧ c ≠ '"' ∧ c ≠ '[' ∧ c ≠ '{' ∧ c ≠ '-' ∧ c ≠ ']' := by
  have apart : ∀ other : Char, other.isDigit = false → c ≠ other := by
    intro other plain same
    rw [same, plain] at digit
    cases digit
  have solid : isBlank c = false := by
    simp [isBlank, apart ' ' rfl, apart '\n' rfl, apart '\t' rfl, apart '\r' rfl]
  exact ⟨solid, apart _ rfl, apart _ rfl, apart _ rfl, apart _ rfl, apart _ rfl⟩

theorem skipValue_of_digit (blanks : Blanks lead (c :: text)) (digit : c.isDigit)
    (skipped : skipNumeral (c :: text) = .ok behind) :
    skipValue stack lead = skipBehind stack behind := by
  obtain ⟨solid, quote, bracket, brace, minus, _⟩ := ne_of_isDigit digit
  obtain ⟨_, found⟩ := next_of_blanks blanks solid
  rw [skipValue, found]
  simp only [quote, bracket, brace, minus, digit, if_false, if_true]
  split
  next failed => cases skipped.symm.trans failed
  next passed => rw [Except.ok.inj (skipped.symm.trans passed)]

theorem skipValue_of_keyword {letters : List Char} (blanks : Blanks lead (c :: text))
    (keyword : keywordTail? c = some letters) (skipped : readKeyword letters text = .ok behind) :
    skipValue stack lead = skipBehind stack behind := by
  have first : c = 'n' ∨ c = 't' ∨ c = 'f' := by
    grind [keywordTail?]
  have apart : isBlank c = false ∧ c ≠ '"' ∧ c ≠ '[' ∧ c ≠ '{' ∧ c ≠ '-' ∧ c.isDigit = false := by
    rcases first with rfl | rfl | rfl <;> decide
  obtain ⟨solid, quote, bracket, brace, minus, digit⟩ := apart
  obtain ⟨_, found⟩ := next_of_blanks blanks solid
  rw [skipValue, found]
  simp only [quote, bracket, brace, minus, digit, keyword, if_false, Bool.false_eq_true]
  split
  next failed => cases skipped.symm.trans failed
  next passed => rw [Except.ok.inj (skipped.symm.trans passed)]

/-- An empty container is passed over at once. -/
theorem skipValue_of_empty (frame : Frame) (blanks : Blanks lead (frame.opening :: text))
    (within : Blanks text (frame.closing :: rest)) :
    skipValue stack lead = skipBehind stack rest := by
  obtain ⟨_, found⟩ := next_of_blanks blanks (by cases frame <;> rfl)
  obtain ⟨_, closed⟩ := next_of_blanks within (by cases frame <;> rfl)
  rw [skipValue, found]
  cases frame <;> simp only [Frame.opening, Frame.closing] at closed ⊢ <;> simp [closed]

theorem skipValue_of_array (blanks : Blanks lead ('[' :: text)) (within : Blanks text (c :: rest))
    (solid : isBlank c = false) (other : c ≠ ']') :
    skipValue stack lead = skipValue (.array :: stack) text := by
  obtain ⟨_, found⟩ := next_of_blanks blanks rfl
  obtain ⟨_, first⟩ := next_of_blanks within solid
  rw [skipValue, found]
  simp only [Char.reduceEq, if_false, if_true, first]
  split
  next none => cases none
  next closed =>
    cases closed
    exact absurd rfl other
  next => rfl

theorem skipValue_of_object (blanks : Blanks lead ('{' :: text))
    (within : Blanks text ('"' :: rest)) : skipValue stack lead = skipMember stack text := by
  obtain ⟨_, found⟩ := next_of_blanks blanks rfl
  obtain ⟨_, first⟩ := next_of_blanks within rfl
  rw [skipValue, found]
  simp [first]

theorem skipMember_of_key {name colon : List Char} (before : Blanks text ('"' :: name))
    (skipped : skipText name = .ok colon) (after : Blanks colon (':' :: rest)) :
    skipMember stack text = skipValue (.object :: stack) rest := by
  obtain ⟨_, found⟩ := next_of_blanks before rfl
  obtain ⟨_, separated⟩ := next_of_blanks after rfl
  rw [skipMember, found]
  simp only [if_true]
  split
  next failed => cases skipped.symm.trans failed
  next passed =>
    cases Except.ok.inj (skipped.symm.trans passed)
    simp [separated]

theorem skipBehind_array_comma (blanks : Blanks text (',' :: rest)) :
    skipBehind (.array :: stack) text = skipValue (.array :: stack) rest := by
  obtain ⟨_, found⟩ := next_of_blanks blanks rfl
  rw [skipBehind, found]
  rfl

theorem skipBehind_object_comma (blanks : Blanks text (',' :: rest)) :
    skipBehind (.object :: stack) text = skipMember stack rest := by
  obtain ⟨_, found⟩ := next_of_blanks blanks rfl
  rw [skipBehind, found]
  rfl

theorem skipBehind_close (frame : Frame) (blanks : Blanks text (frame.closing :: rest)) :
    skipBehind (frame :: stack) text = skipBehind stack rest := by
  obtain ⟨_, found⟩ := next_of_blanks blanks (by cases frame <;> rfl)
  cases frame <;> rw [skipBehind, found] <;> rfl

theorem skipBehind_nil (text : List Char) : skipBehind [] text = .ok text := by
  rw [skipBehind]

/-! ## How written forms begin and end -/

theorem follows_cons (member : c ∈ [' ', '\t', '\n', '\r', ',', ']', '}']) :
    Follows (c :: rest) := by
  intro other head
  cases head
  exact member

theorem follows_of_blanks (blanks : Blanks text rest) (follows : Follows rest) : Follows text := by
  cases blanks with
  | none => exact follows
  | more blank => exact follows_cons (List.mem_append_left [',', ']', '}'] blank)

theorem exists_head_of_writtenValue {tree : Tree} (written : Written (.value tree) text rest) :
    ∃ c more, text = c :: more ∧ isBlank c = false ∧ c ≠ ']' := by
  cases written with
  | natural digits =>
    obtain ⟨c, more, found, digit⟩ := exists_digit_of_writtenNumeral digits
    obtain ⟨solid, _, _, _, _, close⟩ := ne_of_isDigit digit
    exact ⟨c, more, found, solid, close⟩
  | null | yes | no | negative | text | emptyArray | array | emptyObject | object =>
    exact ⟨_, _, rfl, rfl, by decide⟩

theorem exists_head_of_writtenItems {trees : List Tree}
    (written : Written (.items trees) text rest) :
    ∃ c more, Blanks text (c :: more) ∧ isBlank c = false ∧ c ≠ ']' := by
  have element : ∃ tree left, Written (.element tree) text left := by
    cases written with
    | lastItem item => exact ⟨_, _, item⟩
    | item item => exact ⟨_, _, item⟩
  obtain ⟨tree, left, element⟩ := element
  cases element with
  | element before value =>
    obtain ⟨c, more, rfl, solid, close⟩ := exists_head_of_writtenValue value
    exact ⟨c, more, before, solid, close⟩

theorem exists_quote_of_writtenMembers {members : List (String × Tree)}
    (written : Written (.members members) text rest) : ∃ more, Blanks text ('"' :: more) := by
  have member : ∃ key tree left, Written (.member key tree) text left := by
    cases written with
    | lastMember member => exact ⟨_, _, _, member⟩
    | moreMembers member => exact ⟨_, _, _, member⟩
  obtain ⟨key, tree, left, member⟩ := member
  cases member with
  | member before => exact ⟨_, before⟩

/-! ## Whole values -/

def Passes : Phrase → List Char → List Char → Prop
  | .value _, text, rest => Follows rest → ∀ stack lead, Blanks lead text →
    skipValue stack lead = skipBehind stack rest
  | .element _, text, rest => Follows rest → ∀ stack, ∃ behind, Blanks behind rest ∧
    skipValue stack text = skipBehind stack behind
  | .items _, text, rest => ∀ stack after, rest = ']' :: after →
    skipValue (.array :: stack) text = skipBehind stack after
  | .member _ _, text, rest => Follows rest → ∀ stack, ∃ behind, Blanks behind rest ∧
    skipMember stack text = skipBehind (.object :: stack) behind
  | .members _, text, rest => ∀ stack after, rest = '}' :: after →
    skipMember stack text = skipBehind stack after

theorem passes_of_written {phrase : Phrase} (written : Written phrase text rest) :
    Passes phrase text rest := by
  induction written with
  | null | yes | no =>
    intro _ stack lead blanks
    exact skipValue_of_keyword blanks rfl rfl
  | natural digits =>
    intro follows stack lead blanks
    have skipped := skipNumeral_of_written digits follows
    obtain ⟨c, more, rfl, digit⟩ := exists_digit_of_writtenNumeral digits
    exact skipValue_of_digit blanks digit skipped
  | negative digits =>
    intro follows stack lead blanks
    exact skipValue_of_minus blanks (skipNumeral_of_written digits follows)
  | text chars =>
    intro _ stack lead blanks
    exact skipValue_of_quote blanks (skipText_of_quoted chars)
  | emptyArray within =>
    intro _ stack lead blanks
    exact skipValue_of_empty .array blanks within
  | array items ih =>
    intro _ stack lead blanks
    obtain ⟨c, more, within, solid, other⟩ := exists_head_of_writtenItems items
    rw [skipValue_of_array blanks within solid other, ih stack _ rfl]
  | emptyObject within =>
    intro _ stack lead blanks
    exact skipValue_of_empty .object blanks within
  | object members ih =>
    intro _ stack lead blanks
    obtain ⟨more, within⟩ := exists_quote_of_writtenMembers members
    rw [skipValue_of_object blanks within, ih stack _ rfl]
  | element before value after ih =>
    intro follows stack
    exact ⟨_, after, ih (follows_of_blanks after follows) stack _ before⟩
  | lastItem item ih =>
    intro stack after close
    subst close
    obtain ⟨behind, blanks, passed⟩ := ih (follows_cons (by decide)) (.array :: stack)
    rw [passed, skipBehind_close .array blanks]
  | item item items ih ihItems =>
    intro stack after close
    obtain ⟨behind, blanks, passed⟩ := ih (follows_cons (by decide)) (.array :: stack)
    rw [passed, skipBehind_array_comma blanks, ihItems stack after close]
  | member before chars after element ih =>
    intro follows stack
    obtain ⟨behind, blanks, passed⟩ := ih follows (.object :: stack)
    exact ⟨behind, blanks, by
      rw [skipMember_of_key before (skipText_of_quoted chars) after, passed]⟩
  | lastMember member ih =>
    intro stack after close
    subst close
    obtain ⟨behind, blanks, passed⟩ := ih (follows_cons (by decide)) stack
    rw [passed, skipBehind_close .object blanks]
  | moreMembers member members ih ihMembers =>
    intro stack after close
    obtain ⟨behind, blanks, passed⟩ := ih (follows_cons (by decide)) stack
    rw [passed, skipBehind_object_comma blanks, ihMembers stack after close]

theorem skipValue_of_written {tree : Tree} (blanks : Blanks lead text)
    (written : Written (.value tree) text rest) (follows : Follows rest) :
    skipValue [] lead = .ok rest := by
  rw [passes_of_written written follows [] lead blanks, skipBehind_nil]

end GatewaySim.Json
