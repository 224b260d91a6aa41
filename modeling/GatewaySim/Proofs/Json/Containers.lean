import GatewaySim.Json.Members
import GatewaySim.Proofs.Json.Soundness

/-! # Walking through containers

The steps through objects and arrays against the grammar, in both directions: what is written is
walked through, and what has been walked through is written (`found_of_nextMember`,
`found_of_nextItem`). What is left of a container from some place on is said by `MembersLeft` and
`ItemsLeft`, so that a walk can be followed step by step.
-/

namespace GatewaySim.Json

variable {lead text start name colon behind rest : List Char} {c : Char} {first : Bool}
  {key : String} {tree : Tree} {trees : List Tree}

/-- Where a member or an item begins: the first one at once, any other behind a comma. -/
inductive Opens : Bool → List Char → List Char → Prop where
  | first {text : List Char} : Opens true text text
  | further {text rest : List Char} (blanks : Blanks text (',' :: rest)) : Opens false text rest

/-! ## Objects -/

theorem readKey_of_spelled {rest : Rest text} (chars : Spelled key.toList rest.1 ('"' :: colon)) :
    ∃ lt, readKey rest = .ok (.key key ⟨colon, lt⟩) := by
  obtain ⟨lt, read⟩ := readText_of_spelled chars
  simp only [readKey, read]
  exact ⟨Nat.lt_of_lt_of_le lt rest.length_le, rfl⟩

theorem nextMember_of_key (opens : Opens first lead text)
    (before : Blanks text ('"' :: name)) (chars : Spelled key.toList name ('"' :: colon)) :
    ∃ lt, nextMember first lead = .ok (.key key ⟨colon, lt⟩) := by
  obtain ⟨nameLt, quote⟩ := next_of_blanks before rfl
  cases opens with
  | first =>
    simp only [nextMember, quote, Char.reduceEq, if_false, if_true]
    exact readKey_of_spelled chars
  | further blanks =>
    obtain ⟨commaLt, comma⟩ := next_of_blanks blanks rfl
    simp only [nextMember, comma, quote, Char.reduceEq, Bool.false_eq_true, if_false, if_true]
    exact readKey_of_spelled chars

theorem nextMember_of_close (first : Bool) (blanks : Blanks lead ('}' :: rest)) :
    ∃ lt, nextMember first lead = .ok (.closed ⟨rest, lt⟩) := by
  obtain ⟨lt, found⟩ := next_of_blanks blanks rfl
  exact ⟨lt, by simp only [nextMember, found, if_true]⟩

theorem readColon_of_blanks (blanks : Blanks lead (':' :: rest)) :
    ∃ lt, readColon lead = .ok ⟨rest, lt⟩ := by
  obtain ⟨lt, found⟩ := next_of_blanks blanks rfl
  exact ⟨lt, by simp only [readColon, found, if_true]⟩

def MemberStep.Found (first : Bool) {text : List Char} : MemberStep text → Prop
  | .closed left => Blanks text ('}' :: left.1)
  | .key name left => ∃ start quoted, Opens first text start ∧
      Blanks start ('"' :: quoted) ∧ Spelled name.toList quoted ('"' :: left.1)

theorem found_of_readKey {quoted : Rest text} {step : MemberStep text}
    (opens : Opens first text start) (blanks : Blanks start ('"' :: quoted.1))
    (read : readKey quoted = .ok step) : step.Found first := by
  unfold readKey at read
  split at read
  next => cases read
  next spelled =>
    cases read
    exact ⟨start, quoted.1, opens, blanks, spelled_of_readText spelled⟩

theorem found_of_nextMember {step : MemberStep text} (found : nextMember first text = .ok step) :
    step.Found first := by
  unfold nextMember at found
  split at found
  next => cases found
  next c after here =>
    have blanks := blanks_of_next here
    split at found
    next brace =>
      cases found
      subst brace
      exact blanks
    next =>
      split at found
      next begins =>
        subst begins
        split at found
        next quote => exact found_of_readKey .first (quote ▸ blanks) found
        next => cases found
      next later =>
        rw [Bool.not_eq_true] at later
        subst later
        split at found
        next comma =>
          split at found
          next => cases found
          next there =>
            split at found
            next quote =>
              have onward := quote ▸ blanks_of_next there
              exact found_of_readKey (.further (comma ▸ blanks)) onward found
            next => split at found <;> cases found
        next => cases found

theorem blanks_of_readColon {left : Rest text} (read : readColon text = .ok left) :
    Blanks text (':' :: left.1) := by
  unfold readColon at read
  split at read
  next => cases read
  next found =>
    split at read
    next colon =>
      cases read
      exact colon ▸ blanks_of_next found
    next => cases read

/-- What is left of an object from some place on: its closing brace, or further members. -/
def MembersLeft (first : Bool) (text rest : List Char) : Prop :=
  Blanks text ('}' :: rest) ∨
    ∃ start, Opens first text start ∧ Formed .members start ('}' :: rest)

theorem MembersLeft.members (left : MembersLeft false behind rest)
    (member : Formed .member start behind) : Formed .members start ('}' :: rest) := by
  rcases left with close | ⟨next, opens, within⟩
  · exact .lastMember (member.member_blanks close)
  · cases opens with
    | further comma => exact .moreMembers (member.member_blanks comma) within

/-! ## Arrays -/

def ItemStep.Found (first : Bool) {text : List Char} : ItemStep text → Prop
  | .closed left => Blanks text (']' :: left.1)
  | .item start => Opens first text start.1

theorem found_of_nextItem {step : ItemStep text} (found : nextItem first text = .ok step) :
    step.Found first := by
  unfold nextItem at found
  split at found
  next => cases found
  next c after here =>
    have blanks := blanks_of_next here
    split at found
    next bracket =>
      cases found
      subst bracket
      exact blanks
    next =>
      split at found
      next begins =>
        cases found
        subst begins
        exact .first
      next later =>
        rw [Bool.not_eq_true] at later
        subst later
        split at found
        next comma =>
          split at found
          next => cases found
          next =>
            split at found
            next => cases found
            next =>
              cases found
              exact .further (comma ▸ blanks)
        next => cases found

theorem nextItem_of_close (first : Bool) (blanks : Blanks lead (']' :: rest)) :
    ∃ lt, nextItem first lead = .ok (.closed ⟨rest, lt⟩) := by
  obtain ⟨lt, found⟩ := next_of_blanks blanks rfl
  exact ⟨lt, by simp only [nextItem, found, if_true]⟩

theorem nextItem_of_item (opens : Opens first lead text) (before : Blanks text (c :: rest))
    (solid : isBlank c = false) (other : c ≠ ']') :
    ∃ le, nextItem first lead = .ok (.item ⟨text, le⟩) := by
  obtain ⟨_, head⟩ := next_of_blanks before solid
  cases opens with
  | first => exact ⟨Nat.le_refl _, by simp only [nextItem, head, if_neg other, if_true]⟩
  | further blanks =>
    obtain ⟨lt, comma⟩ := next_of_blanks blanks rfl
    refine ⟨Nat.le_of_lt lt, ?_⟩
    simp only [nextItem, comma, head, if_neg other, Char.reduceEq, Bool.false_eq_true, if_false,
      if_true]

theorem readArrayEnd_eq_ok_iff : readArrayEnd text = .ok rest ↔ Blanks text (']' :: rest) := by
  constructor
  · intro read
    unfold readArrayEnd at read
    split at read
    next => cases read
    next found =>
      split at read
      next bracket =>
        cases read
        exact bracket ▸ blanks_of_next found
      next =>
        split at read
        next => split at read <;> cases read
        next => cases read
  · intro blanks
    obtain ⟨_, found⟩ := next_of_blanks blanks rfl
    simp only [readArrayEnd, found, if_true]

/-- What is left of an array from some place on: its closing bracket, or further items. -/
inductive ItemsLeft : Bool → List Tree → List Char → List Char → Prop where
  | close {first : Bool} {text rest : List Char} (blanks : Blanks text (']' :: rest)) :
      ItemsLeft first [] text rest
  | items {first : Bool} {trees : List Tree} {text start rest : List Char}
      (opens : Opens first text start) (items : Written (.items trees) start (']' :: rest)) :
      ItemsLeft first trees text rest

theorem itemsLeft_nil : ItemsLeft first [] text rest ↔ Blanks text (']' :: rest) := by
  refine ⟨fun left => ?_, .close⟩
  cases left with
  | close blanks => exact blanks
  | items _ items => cases items

theorem itemsLeft_cons :
    ItemsLeft first (tree :: trees) text rest ↔
      ∃ start value behind, Opens first text start ∧ Blanks start value ∧
        Written (.value tree) value behind ∧ ItemsLeft false trees behind rest := by
  constructor
  · intro left
    cases left with
    | items opens items =>
      cases items with
      | lastItem item =>
        cases item with
        | element before value after => exact ⟨_, _, _, opens, before, value, .close after⟩
      | item item items =>
        cases item with
        | element before value after =>
          exact ⟨_, _, _, opens, before, value, .items (.further after) items⟩
  · rintro ⟨start, value, behind, opens, before, written, left⟩
    cases left with
    | close blanks => exact .items opens (.lastItem (.element before written blanks))
    | items comma items =>
      cases comma with
      | further blanks => exact .items opens (.item (.element before written blanks) items)

theorem writtenText_array_iff :
    WrittenText (.array trees) lead ↔
      ∃ start behind, Blanks lead ('[' :: start) ∧ ItemsLeft true trees start behind ∧
        Blanks behind [] := by
  constructor
  · intro written
    cases written with
    | element before value after =>
      cases value with
      | emptyArray blanks => exact ⟨_, _, before, .close blanks, after⟩
      | array items => exact ⟨_, _, before, .items .first items, after⟩
  · rintro ⟨start, behind, before, left, after⟩
    cases left with
    | close blanks => exact .element before (.emptyArray blanks) after
    | items opens items =>
      cases opens
      exact .element before (.array items) after

end GatewaySim.Json
