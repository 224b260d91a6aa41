import GatewaySim.Proofs.Json.Tokens

/-! # What is passed over is JSON

A value that is passed over is well-formed (`formed_of_skipValue`). On the way its open containers
are kept on a stack, so first it is said what a stack still asks of the text behind a value
(`Closes`); then every run that comes to an end has a derivation behind it.
-/

namespace GatewaySim.Json

/-- What follows a value in the containers around it, up to their closing brackets. -/
inductive Closes : List Frame → List Char → List Char → Prop where
  | done {text : List Char} : Closes [] text text
  | array {stack : List Frame} {text behind rest : List Char}
      (blanks : Blanks text (']' :: behind)) (outer : Closes stack behind rest) :
      Closes (.array :: stack) text rest
  | moreItems {stack : List Frame} {text others behind rest : List Char}
      (blanks : Blanks text (',' :: others)) (items : Formed .items others (']' :: behind))
      (outer : Closes stack behind rest) : Closes (.array :: stack) text rest
  | object {stack : List Frame} {text behind rest : List Char}
      (blanks : Blanks text ('}' :: behind)) (outer : Closes stack behind rest) :
      Closes (.object :: stack) text rest
  | moreMembers {stack : List Frame} {text others behind rest : List Char}
      (blanks : Blanks text (',' :: others)) (within : Formed .members others ('}' :: behind))
      (outer : Closes stack behind rest) : Closes (.object :: stack) text rest

variable {stack : List Frame} {text behind rest : List Char} {kind : Kind}

/-- An item and what follows it in its array are items. -/
theorem Closes.items (closes : Closes (.array :: stack) behind rest)
    (item : Formed (.element kind) text behind) :
    ∃ close, Formed .items text (']' :: close) ∧ Closes stack close rest := by
  cases closes with
  | array blanks outer => exact ⟨_, .lastItem (item.element_blanks blanks), outer⟩
  | moreItems blanks items outer => exact ⟨_, .item (item.element_blanks blanks) items, outer⟩

/-- A member and what follows it in its object are members. -/
theorem Closes.members (closes : Closes (.object :: stack) behind rest)
    (member : Formed .member text behind) :
    ∃ close, Formed .members text ('}' :: close) ∧ Closes stack close rest := by
  cases closes with
  | object blanks outer => exact ⟨_, .lastMember (member.member_blanks blanks), outer⟩
  | moreMembers blanks within outer =>
    exact ⟨_, .moreMembers (member.member_blanks blanks) within, outer⟩

/-- The text begins with a value, and what follows it closes the containers around it. -/
def BeginsValue (stack : List Frame) (text rest : List Char) : Prop :=
  ∃ kind behind, Formed (.element kind) text behind ∧ Closes stack behind rest

def BeginsMember (stack : List Frame) (text rest : List Char) : Prop :=
  ∃ behind, Formed .member text behind ∧ Closes (.object :: stack) behind rest

/-- Whatever is passed over of a text shorter than the bound is well-formed. -/
structure SoundBelow (bound : Nat) (rest : List Char) : Prop where
  value : ∀ {stack text}, text.length < bound → skipValue stack text = .ok rest →
    BeginsValue stack text rest
  member : ∀ {stack text}, text.length < bound → skipMember stack text = .ok rest →
    BeginsMember stack text rest
  behind : ∀ {stack text}, text.length < bound → skipBehind stack text = .ok rest →
    Closes stack text rest

theorem SkippedSingle.formed {c : Char} (single : SkippedSingle c text behind) :
    ∃ kind, Formed (.value kind) (c :: text) behind := by
  cases single with
  | text skipped => exact ⟨.text, .text (quoted_of_skipText skipped)⟩
  | negative skipped =>
    obtain ⟨numeral, digits⟩ := exists_numeral_of_skipNumeral skipped
    exact ⟨.number, .negative digits⟩
  | natural skipped =>
    obtain ⟨numeral, digits⟩ := exists_numeral_of_skipNumeral skipped
    exact ⟨.number, .natural digits⟩
  | keyword known read =>
    cases eq_append_of_readKeyword read
    unfold keywordTail? at known
    split at known
    next letter =>
      cases known
      exact ⟨.null, letter ▸ .null⟩
    next =>
      split at known
      next letter =>
        cases known
        exact ⟨.boolean, letter ▸ .yes⟩
      next =>
        split at known
        next letter =>
          cases known
          exact ⟨.boolean, letter ▸ .no⟩
        next => cases known

namespace SoundBelow

theorem beginsValue (sound : SoundBelow text.length rest)
    (passed : skipValue stack text = .ok rest) : BeginsValue stack text rest := by
  cases skippedValue_of_skipValue passed with
  | @single _ after behind found single passed =>
    obtain ⟨kind, value⟩ := single.formed
    have shorter := Nat.lt_of_le_of_lt single.length_le after.2
    exact ⟨kind, behind, .element (blanks_of_next found) value .none, sound.behind shorter passed⟩
  | @emptyArray after behind found closed passed =>
    have shorter := Nat.lt_trans behind.2 after.2
    exact ⟨.array, behind.1,
      .element (blanks_of_next found) (.emptyArray (blanks_of_next closed)) .none,
      sound.behind shorter passed⟩
  | @array after found passed =>
    obtain ⟨kind, behind, item, closes⟩ := sound.value after.2 passed
    obtain ⟨close, items, outer⟩ := closes.items item
    exact ⟨.array, close, .element (blanks_of_next found) (.array items) .none, outer⟩
  | @emptyObject after behind found closed passed =>
    have shorter := Nat.lt_trans behind.2 after.2
    exact ⟨.object, behind.1,
      .element (blanks_of_next found) (.emptyObject (blanks_of_next closed)) .none,
      sound.behind shorter passed⟩
  | @object after found passed =>
    obtain ⟨behind, member, closes⟩ := sound.member after.2 passed
    obtain ⟨close, within, outer⟩ := closes.members member
    exact ⟨.object, close, .element (blanks_of_next found) (.object within) .none, outer⟩

theorem beginsMember (sound : SoundBelow text.length rest)
    (passed : skipMember stack text = .ok rest) : BeginsMember stack text rest := by
  obtain ⟨after, colon, start, found, skipped, separated, passed⟩ := skipMember_eq_ok passed
  have shorter := Nat.lt_trans start.2 (Nat.lt_trans (skipText_length_lt skipped) after.2)
  obtain ⟨kind, behind, element, closes⟩ := sound.value shorter passed
  exact ⟨behind, .member (blanks_of_next found) (quoted_of_skipText skipped)
    (blanks_of_next separated) element, closes⟩

theorem closes (sound : SoundBelow text.length rest) (passed : skipBehind stack text = .ok rest) :
    Closes stack text rest := by
  cases skippedBehind_of_skipBehind passed with
  | done => exact .done
  | @item _ _ _ after comma passed =>
    obtain ⟨kind, behind, item, closes⟩ := sound.value after.2 passed
    obtain ⟨close, items, outer⟩ := closes.items item
    exact .moreItems (blanks_of_next comma) items outer
  | @closeArray _ _ _ after closed passed =>
    exact .array (blanks_of_next closed) (sound.behind after.2 passed)
  | @member _ _ _ after comma passed =>
    obtain ⟨behind, member, closes⟩ := sound.member after.2 passed
    obtain ⟨close, within, outer⟩ := closes.members member
    exact .moreMembers (blanks_of_next comma) within outer
  | @closeObject _ _ _ after closed passed =>
    exact .object (blanks_of_next closed) (sound.behind after.2 passed)

end SoundBelow

theorem soundBelow (bound : Nat) (rest : List Char) : SoundBelow bound rest := by
  induction bound with
  | zero => exact ⟨nofun, nofun, nofun⟩
  | succ bound ih =>
    have shorter : ∀ text : List Char, text.length < bound + 1 →
        SoundBelow text.length rest := by
      intro text lt
      have le := Nat.le_of_lt_succ lt
      exact ⟨fun lt => ih.value (Nat.lt_of_lt_of_le lt le),
        fun lt => ih.member (Nat.lt_of_lt_of_le lt le),
        fun lt => ih.behind (Nat.lt_of_lt_of_le lt le)⟩
    exact ⟨fun lt => (shorter _ lt).beginsValue, fun lt => (shorter _ lt).beginsMember,
      fun lt => (shorter _ lt).closes⟩

/-- A value that is passed over is well-formed. -/
theorem formed_of_skipValue (passed : skipValue [] text = .ok rest) :
    ∃ kind, Formed (.element kind) text rest := by
  obtain ⟨kind, behind, element, closes⟩ :=
    (soundBelow (text.length + 1) rest).value (Nat.lt_succ_self _) passed
  cases closes
  exact ⟨kind, element⟩

end GatewaySim.Json
