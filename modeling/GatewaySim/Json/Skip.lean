import GatewaySim.Json.Numeral
import GatewaySim.Json.Text

/-! # Passing over values

A value that nobody asks for is passed over: it must be well-formed, but may be nested to any depth
and hold numerals of any size. The containers that are open at a place are kept on a stack, so the
depth costs no more than their number.
-/

namespace GatewaySim.Json

inductive Frame where
  | array
  | object
  deriving DecidableEq, Repr

/-- The letters that follow the first letter of a keyword. -/
def keywordTail? (c : Char) : Option (List Char) :=
  if c = 'n' then some ['u', 'l', 'l']
  else if c = 't' then some ['r', 'u', 'e']
  else if c = 'f' then some ['a', 'l', 's', 'e']
  else none

mutual

/-- Passes over a value and then over the rest of the containers around it. -/
def skipValue (stack : List Frame) (text : List Char) : Except ReadError (List Char) :=
  match next text with
  | none => .error .endInValue
  | some (c, rest) =>
    if c = '"' then
      match _h : skipText rest.1 with
      | .error e => .error e
      | .ok behind => skipBehind stack behind
    else if c = '[' then
      match next rest.1 with
      | none => .error .endInArray
      | some (']', behind) => skipBehind stack behind.1
      | some _ => skipValue (.array :: stack) rest.1
    else if c = '{' then
      match next rest.1 with
      | none => .error .endInObject
      | some ('}', behind) => skipBehind stack behind.1
      | some _ => skipMember stack rest.1
    else if c = '-' then
      match _h : skipNumeral rest.1 with
      | .error e => .error e
      | .ok behind => skipBehind stack behind
    else if c.isDigit then
      match _h : skipNumeral (c :: rest.1) with
      | .error e => .error e
      | .ok behind => skipBehind stack behind
    else
      match keywordTail? c with
      | none => .error .expectedValue
      | some letters =>
        match _h : readKeyword letters rest.1 with
        | .error e => .error e
        | .ok behind => skipBehind stack behind
termination_by text.length
decreasing_by
  · exact Nat.lt_trans (skipText_length_lt _h) rest.2
  · exact Nat.lt_trans behind.2 rest.2
  · exact rest.2
  · exact Nat.lt_trans behind.2 rest.2
  · exact rest.2
  · exact Nat.lt_trans (skipNumeral_length_lt _h) rest.2
  · exact Nat.lt_of_lt_of_le (skipNumeral_length_lt _h) rest.2
  · exact Nat.lt_of_le_of_lt (readKeyword_length_le _h) rest.2

/-- Passes over a member of an object, and then over the rest of the object and of the containers
around it. -/
def skipMember (stack : List Frame) (text : List Char) : Except ReadError (List Char) :=
  match next text with
  | none => .error .endInObject
  | some (c, rest) =>
    if c = '"' then
      match _h : skipText rest.1 with
      | .error e => .error e
      | .ok behind =>
        match next behind with
        | none => .error .endInObject
        | some (':', value) => skipValue (.object :: stack) value.1
        | some _ => .error .expectedColon
    else .error .keyNotText
termination_by text.length
decreasing_by
  exact Nat.lt_trans value.2 (Nat.lt_trans (skipText_length_lt _h) rest.2)

def skipBehind (stack : List Frame) (text : List Char) : Except ReadError (List Char) :=
  match stack with
  | [] => .ok text
  | .array :: outer =>
    match next text with
    | none => .error .endInArray
    | some (',', rest) => skipValue (.array :: outer) rest.1
    | some (']', rest) => skipBehind outer rest.1
    | some _ => .error .expectedCommaOrBracket
  | .object :: outer =>
    match next text with
    | none => .error .endInObject
    | some (',', rest) => skipMember outer rest.1
    | some ('}', rest) => skipBehind outer rest.1
    | some _ => .error .expectedCommaOrBrace
termination_by text.length
decreasing_by
  · exact rest.2
  · exact rest.2
  · exact rest.2
  · exact rest.2

end

/-- A text, a number or a keyword has been passed over, given its first character and what follows
that. -/
inductive SkippedSingle : Char → List Char → List Char → Prop where
  | text {text behind : List Char} (skipped : skipText text = .ok behind) :
      SkippedSingle '"' text behind
  | negative {text behind : List Char} (skipped : skipNumeral text = .ok behind) :
      SkippedSingle '-' text behind
  | natural {c : Char} {text behind : List Char} (skipped : skipNumeral (c :: text) = .ok behind) :
      SkippedSingle c text behind
  | keyword {c : Char} {letters text behind : List Char} (known : keywordTail? c = some letters)
      (read : readKeyword letters text = .ok behind) : SkippedSingle c text behind

/-- How a value has been passed over: as a single one, as an empty container, or as a container
that is gone through. -/
inductive SkippedValue (stack : List Frame) (text rest : List Char) : Prop where
  | single {c : Char} {after : Rest text} {behind : List Char} (found : next text = some (c, after))
      (single : SkippedSingle c after.1 behind) (passed : skipBehind stack behind = .ok rest)
  | emptyArray {after : Rest text} {behind : Rest after.1} (found : next text = some ('[', after))
      (closed : next after.1 = some (']', behind)) (passed : skipBehind stack behind.1 = .ok rest)
  | array {after : Rest text} (found : next text = some ('[', after))
      (passed : skipValue (.array :: stack) after.1 = .ok rest)
  | emptyObject {after : Rest text} {behind : Rest after.1} (found : next text = some ('{', after))
      (closed : next after.1 = some ('}', behind)) (passed : skipBehind stack behind.1 = .ok rest)
  | object {after : Rest text} (found : next text = some ('{', after))
      (passed : skipMember stack after.1 = .ok rest)

theorem SkippedSingle.length_le {c : Char} {text behind : List Char}
    (single : SkippedSingle c text behind) : behind.length ≤ text.length := by
  cases single with
  | text skipped => exact Nat.le_of_lt (skipText_length_lt skipped)
  | negative skipped => exact Nat.le_of_lt (skipNumeral_length_lt skipped)
  | natural skipped => exact Nat.le_of_lt_succ (skipNumeral_length_lt skipped)
  | keyword _ read => exact readKeyword_length_le read

theorem skippedValue_of_skipValue {stack : List Frame} {text rest : List Char}
    (passed : skipValue stack text = .ok rest) : SkippedValue stack text rest := by
  rw [skipValue] at passed
  split at passed
  next => cases passed
  next c after found =>
    split at passed
    next quote =>
      subst quote
      split at passed
      next => cases passed
      next skipped => exact .single found (.text skipped) passed
    next =>
      split at passed
      next bracket =>
        subst bracket
        split at passed
        next => cases passed
        next closed => exact .emptyArray found closed passed
        next => exact .array found passed
      next =>
        split at passed
        next brace =>
          subst brace
          split at passed
          next => cases passed
          next closed => exact .emptyObject found closed passed
          next => exact .object found passed
        next =>
          split at passed
          next minus =>
            subst minus
            split at passed
            next => cases passed
            next skipped => exact .single found (.negative skipped) passed
          next =>
            split at passed
            next =>
              split at passed
              next => cases passed
              next skipped => exact .single found (.natural skipped) passed
            next =>
              split at passed
              next => cases passed
              next known =>
                split at passed
                next => cases passed
                next read => exact .single found (.keyword known read) passed

/-- A member has been passed over: its key, its colon, and its value. -/
theorem skipMember_eq_ok {stack : List Frame} {text rest : List Char}
    (passed : skipMember stack text = .ok rest) :
    ∃ (after : Rest text) (behind : List Char) (value : Rest behind),
      next text = some ('"', after) ∧ skipText after.1 = .ok behind ∧
        next behind = some (':', value) ∧ skipValue (.object :: stack) value.1 = .ok rest := by
  rw [skipMember] at passed
  split at passed
  next => cases passed
  next c after found =>
    split at passed
    next quote =>
      subst quote
      split at passed
      next => cases passed
      next skipped =>
        split at passed
        next => cases passed
        next value separated => exact ⟨after, _, value, found, skipped, separated, passed⟩
        next => cases passed
    next => cases passed

/-- How what follows a value has been passed over: nothing, as there is no container left, or a
comma and more of the container, or its closing bracket and what follows the container. -/
inductive SkippedBehind : List Frame → List Char → List Char → Prop where
  | done {text : List Char} : SkippedBehind [] text text
  | item {outer : List Frame} {text rest : List Char} {after : Rest text}
      (comma : next text = some (',', after))
      (passed : skipValue (.array :: outer) after.1 = .ok rest) :
      SkippedBehind (.array :: outer) text rest
  | closeArray {outer : List Frame} {text rest : List Char} {after : Rest text}
      (closed : next text = some (']', after)) (passed : skipBehind outer after.1 = .ok rest) :
      SkippedBehind (.array :: outer) text rest
  | member {outer : List Frame} {text rest : List Char} {after : Rest text}
      (comma : next text = some (',', after)) (passed : skipMember outer after.1 = .ok rest) :
      SkippedBehind (.object :: outer) text rest
  | closeObject {outer : List Frame} {text rest : List Char} {after : Rest text}
      (closed : next text = some ('}', after)) (passed : skipBehind outer after.1 = .ok rest) :
      SkippedBehind (.object :: outer) text rest

theorem skippedBehind_of_skipBehind {stack : List Frame} {text rest : List Char}
    (passed : skipBehind stack text = .ok rest) : SkippedBehind stack text rest := by
  rw [skipBehind.eq_def] at passed
  split at passed
  next =>
    cases passed
    exact .done
  next =>
    split at passed
    next => cases passed
    next comma => exact .item comma passed
    next closed => exact .closeArray closed passed
    next => cases passed
  next =>
    split at passed
    next => cases passed
    next comma => exact .member comma passed
    next closed => exact .closeObject closed passed
    next => cases passed

theorem skip_length (bound : Nat) :
    ∀ text : List Char, text.length < bound → ∀ (stack : List Frame) (rest : List Char),
      (skipValue stack text = .ok rest → rest.length < text.length) ∧
      (skipMember stack text = .ok rest → rest.length < text.length) ∧
      (skipBehind stack text = .ok rest → rest.length ≤ text.length) := by
  induction bound with
  | zero => exact fun _ lt => absurd lt (Nat.not_lt_zero _)
  | succ bound ih =>
    intro text lt stack rest
    have value : ∀ (stack : List Frame) (after : Rest text),
        skipValue stack after.1 = .ok rest → rest.length < text.length := by
      intro stack after passed
      have shorter := after.2
      exact Nat.lt_trans ((ih after.1 (by omega) stack rest).1 passed) shorter
    have member : ∀ (stack : List Frame) (after : Rest text),
        skipMember stack after.1 = .ok rest → rest.length < text.length := by
      intro stack after passed
      have shorter := after.2
      exact Nat.lt_trans ((ih after.1 (by omega) stack rest).2.1 passed) shorter
    have behind : ∀ (stack : List Frame) (after : Rest text),
        skipBehind stack after.1 = .ok rest → rest.length < text.length := by
      intro stack after passed
      have shorter := after.2
      exact Nat.lt_of_le_of_lt ((ih after.1 (by omega) stack rest).2.2 passed) shorter
    refine ⟨fun passed => ?_, fun passed => ?_, fun passed => ?_⟩
    · cases skippedValue_of_skipValue passed with
      | @single _ after left _ single passed =>
        exact behind stack ⟨left, Nat.lt_of_le_of_lt single.length_le after.2⟩ passed
      | emptyArray _ _ passed => exact behind stack (Rest.within _ _) passed
      | array _ passed => exact value _ _ passed
      | emptyObject _ _ passed => exact behind stack (Rest.within _ _) passed
      | object _ passed => exact member _ _ passed
    · obtain ⟨after, left, start, _, skipped, _, passed⟩ := skipMember_eq_ok passed
      have shorter := Nat.lt_trans start.2 (Nat.lt_trans (skipText_length_lt skipped) after.2)
      exact value _ ⟨start.1, shorter⟩ passed
    · cases skippedBehind_of_skipBehind passed with
      | done => exact Nat.le_refl _
      | item _ passed => exact Nat.le_of_lt (value _ _ passed)
      | closeArray _ passed => exact Nat.le_of_lt (behind _ _ passed)
      | member _ passed => exact Nat.le_of_lt (member _ _ passed)
      | closeObject _ passed => exact Nat.le_of_lt (behind _ _ passed)

/-- What passing over a value leaves is shorter. -/
theorem skipValue_length_lt {stack : List Frame} {text rest : List Char}
    (h : skipValue stack text = .ok rest) : rest.length < text.length :=
  (skip_length (text.length + 1) text (Nat.lt_succ_self _) stack rest).1 h

end GatewaySim.Json
