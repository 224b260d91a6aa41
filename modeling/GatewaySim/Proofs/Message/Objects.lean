import GatewaySim.Proofs.Json.Containers
import GatewaySim.Proofs.Message.Members

/-! # Which objects are messages

Reading an object takes up its members one by one, whatever way the object is written
(`read_of_written`). So an object is a message exactly if every field occurs at most once and only
as a text or as null, and neither the order of the members nor those with other keys matter.
-/

namespace GatewaySim

namespace Json

variable {lead text name colon rest : List Char} {c : Char} {key : String} {tree : Tree}

/-! ## Values of another kind -/

theorem foundAt_of_written (written : Written (.value tree) (c :: text) rest)
    (follows : Follows rest) : foundAt c text = tree.found := by
  cases written with
  | null | yes | no | emptyArray | array | emptyObject | object => rfl
  | text chars =>
    obtain ⟨_, read⟩ := readText_of_spelled chars
    rw [foundAt, if_neg (by decide), if_neg (by decide), if_pos rfl, read]
    rfl
  | @natural numeral _ _ digits =>
    obtain ⟨_, _, head, digit⟩ := exists_digit_of_writtenNumeral digits
    cases head
    obtain ⟨_, quote, bracket, brace, minus, _⟩ := ne_of_isDigit digit
    rw [foundAt, if_neg bracket, if_neg brace, if_neg quote, if_neg minus, if_pos digit,
      readNumber_of_written digits follows, Tree.found]
    cases numeral.value false <;> rfl
  | @negative numeral _ _ digits =>
    rw [foundAt, if_neg (by decide), if_neg (by decide), if_neg (by decide), if_pos rfl,
      readNumber_of_written digits follows, Tree.found]
    cases numeral.value true <;> rfl

theorem mismatch_of_written (written : Written (.value tree) (c :: text) rest)
    (follows : Follows rest) (expected : String) :
    mismatch expected c text = tree.mismatch expected := by
  rw [mismatch, foundAt_of_written written follows]
  rfl

/-- Only texts and null begin like one. -/
theorem ne_of_fieldValue_eq_error {e : ReadError}
    (written : Written (.value tree) (c :: text) rest) (wrong : tree.fieldValue = .error e) :
    c ≠ '"' ∧ c ≠ 'n' := by
  cases written with
  | null | text => cases wrong
  | yes | no | negative | emptyArray | array | emptyObject | object => decide
  | natural digits =>
    obtain ⟨_, _, head, digit⟩ := exists_digit_of_writtenNumeral digits
    cases head
    constructor
    · intro same
      simp [same] at digit
    · intro same
      simp [same] at digit

end Json

namespace Message

open Json

variable {lead text rest : List Char} {first : Bool} {seen : List Field} {read : Message}
  {key : String} {tree : Tree} {members : List (String × Tree)}

/-! ## The value of a field -/

theorem readValue_of_ok {content : Option String} (blanks : Blanks lead text)
    (written : Written (.value tree) text rest) (value : tree.fieldValue = .ok content) :
    ∃ lt, readValue lead = .ok (content, ⟨rest, lt⟩) := by
  rw [Tree.fieldValue_eq_ok_iff] at value
  cases content with
  | none =>
    subst value
    cases written
    obtain ⟨lt, found⟩ := next_of_blanks blanks rfl
    simp only [List.length_cons] at lt
    rw [readValue, found]
    exact ⟨by omega, rfl⟩
  | some content =>
    subst value
    cases written with
    | text chars =>
      obtain ⟨lt, found⟩ := next_of_blanks blanks rfl
      obtain ⟨within, read⟩ := readText_of_spelled chars
      simp only [readValue, found, read, if_true]
      exact ⟨Nat.lt_trans within lt, rfl⟩

theorem readValue_of_error {e : ReadError} (blanks : Blanks lead text)
    (written : Written (.value tree) text rest) (follows : Follows rest)
    (wrong : tree.fieldValue = .error e) : readValue lead = .error e := by
  obtain ⟨c, more, rfl, solid, _⟩ := exists_head_of_writtenValue written
  obtain ⟨quote, letter⟩ := ne_of_fieldValue_eq_error written wrong
  obtain ⟨_, found⟩ := next_of_blanks blanks solid
  have mismatched : tree.mismatch "a string" = e := by
    cases tree with
    | null | text => cases wrong
    | boolean | number | array | object => exact Except.error.inj wrong
  simp only [readValue, found, if_neg quote, if_neg letter, mismatch_of_written written follows,
    mismatched]

/-! ## The members of an object -/

/-- Reading a member takes it up and goes on behind it. -/
theorem readMembers_of_member (seen : List Field) (read : Message)
    (opens : Opens first lead text) (member : Written (.member key tree) text rest)
    (follows : Follows rest) :
    ∃ behind, Blanks behind rest ∧ readMembers first seen read lead =
      match takeMember seen read (key, tree) with
      | .error e => .error e
      | .ok (seen, read) => readMembers false seen read behind := by
  cases member with
  | member before chars after element =>
    cases element with
    | @element _ _ _ behind _ lead value trail =>
      refine ⟨behind, trail, ?_⟩
      have follows := follows_of_blanks trail follows
      obtain ⟨_, named⟩ := nextMember_of_key opens before chars
      obtain ⟨_, separated⟩ := readColon_of_blanks after
      rw [readMembers, named]
      rcases unknown_or_key key with unknown | ⟨field, rfl⟩
      · rw [takeMember_of_unknown unknown]
        simp only [unknown, separated]
        split
        next failed => cases (skipValue_of_written lead value follows).symm.trans failed
        next passed =>
          cases Except.ok.inj ((skipValue_of_written lead value follows).symm.trans passed)
          rfl
      · simp only [Field.ofKey?_key]
        by_cases repeated : field ∈ seen
        · rw [takeMember_of_seen repeated, if_pos repeated]
        · rw [if_neg repeated]
          cases content : tree.fieldValue with
          | error e =>
            rw [takeMember_of_error repeated content]
            simp only [separated, readValue_of_error lead value follows content]
          | ok content =>
            obtain ⟨_, readContent⟩ := readValue_of_ok lead value content
            rw [takeMember_of_ok repeated content]
            simp only [separated, readContent]

theorem readMembers_of_close (blanks : Blanks lead ('}' :: rest)) :
    readMembers first seen read lead = .ok (read, rest) := by
  obtain ⟨_, closed⟩ := nextMember_of_close first blanks
  rw [readMembers, closed]

theorem readMembers_of_written (opens : Opens first lead text)
    (written : Written (.members members) text ('}' :: rest)) :
    readMembers first seen read lead = (ofMembers seen read members).map fun m => (m, rest) := by
  induction members generalizing first seen read lead text with
  | nil => cases written
  | cons member members ih =>
    cases written with
    | lastMember member =>
      obtain ⟨behind, blanks, step⟩ :=
        readMembers_of_member seen read opens member (follows_cons (by decide))
      rw [step, ofMembers]
      cases takeMember seen read _ with
      | error e => rfl
      | ok taken => exact readMembers_of_close blanks
    | moreMembers member within =>
      obtain ⟨behind, blanks, step⟩ :=
        readMembers_of_member seen read opens member (follows_cons (by decide))
      rw [step, ofMembers]
      cases takeMember seen read _ with
      | error e => rfl
      | ok taken => exact ih (.further blanks) within

theorem readFrom_of_written (blanks : Blanks lead text)
    (written : Written (.value (.object members)) text rest) :
    readFrom lead = (ofMembers [] empty members).map fun m => (m, rest) := by
  cases written with
  | emptyObject within =>
    obtain ⟨_, found⟩ := next_of_blanks blanks rfl
    rw [readFrom, found]
    exact readMembers_of_close within
  | object within =>
    obtain ⟨_, found⟩ := next_of_blanks blanks rfl
    rw [readFrom, found]
    exact readMembers_of_written .first within

/-- Reading an object takes up its members, whatever way it is written. -/
theorem read_of_written {text : String} (written : WrittenText (.object members) text.toList) :
    Message.read text = ofMembers [] empty members := by
  cases written with
  | element before value after =>
    have ended := readEnd_of_blanks after
    rw [Message.read, readFrom_of_written before value]
    cases ofMembers [] empty members with
    | error e => rfl
    | ok m => simp only [Except.map, ended]

/-- An object is a message exactly if each field occurs at most once, and only as a text or as null.
The message holds what the members say, and it does not depend on how the object is written, on the
order of the members, or on members with other keys. -/
theorem read_object_iff {members : List (String × Tree)} {text : String}
    (written : WrittenText (.object members) text.toList) :
    ((∃ m, Message.read text = .ok m) ↔
      ∀ field : Field, (members.map Prod.fst).count field.key ≤ 1 ∧
        ∀ tree, (field.key, tree) ∈ members →
          tree = .null ∨ ∃ content, tree = .text content) ∧
    (∀ m, Message.read text = .ok m → ∀ field content,
      m.get field = some content ↔ (field.key, .text content) ∈ members) ∧
    (∀ other : String, WrittenText (.object members) other.toList →
      Message.read other = Message.read text) ∧
    (∀ others (other : String), WrittenText (.object others) other.toList →
      (known others).Perm (known members) →
        ∀ m, Message.read other = .ok m ↔ Message.read text = .ok m) := by
  have readText := read_of_written written
  refine ⟨?_, ?_, ?_, ?_⟩
  · rw [readText, ofMembers_isOk_iff]
    simp only [Acceptable, occurrences, List.not_mem_nil, if_false]
  · intro m taken field content
    rw [readText] at taken
    rw [get_of_ofMembers (fun field _ => get_empty field) taken, get_empty]
    simp
  · intro other writtenOther
    rw [readText, read_of_written writtenOther]
  · intro others other writtenOther same m
    rw [readText, read_of_written writtenOther]
    exact ⟨ofMembers_of_known same.symm, ofMembers_of_known same⟩

theorem read_object_iff_escaped :
    let members : List (String × Tree) := [("x", .array [.object []]), ("src", .text "a"),
      ("x", .number true ⟨['1'], ['5'], some 3⟩)]
    let text := "\x7b \"x\":[\x7b\x7d],\n\"\\u0073rc\" : \"a\",\"x\":-1.5e+3\x7d "
    WrittenText (.object members) text.toList ∧
      ∃ m, Message.read text = .ok m ∧ m.get .src = some "a" ∧ m.get .dest = none := by
  intro members text
  have plain : ∀ c, c ∈ ['x', 'r', 'c', 'a'] → ∀ rest,
      SpelledChar c (c :: rest) rest := by
    intro c letter rest
    have table : ∀ c, c ∈ ['x', 'r', 'c', 'a'] → c ≠ '"' ∧ c ≠ '\\' ∧ 0x20 ≤ c.toNat := by
      simp
    obtain ⟨quote, backslash, printable⟩ := table c letter
    exact .plain quote backslash printable
  have x : ∀ rest, Spelled "x".toList ('x' :: rest) rest :=
    fun rest => .cons (plain 'x' (by decide) _) .nil
  have src : ∀ rest,
      Spelled "src".toList ('\\' :: 'u' :: '0' :: '0' :: '7' :: '3' :: 'r' :: 'c' :: rest) rest :=
    fun rest => .cons
      (.unit (.digits (w := 0) (x := 0) (y := 7) (z := 3)
        (.inl rfl) (.inl rfl) (.inl rfl) (.inl rfl)))
      (.cons (plain 'r' (by decide) _) (.cons (plain 'c' (by decide) _) .nil))
  have three : Digits ['3'] := ⟨by simp, by simp⟩
  have numeral : ∀ rest,
      WrittenNumeral ⟨['1'], ['5'], some 3⟩ ('1' :: '.' :: '5' :: 'e' :: '+' :: '3' :: rest) rest :=
    fun rest => .parts ⟨⟨by simp, by simp⟩, by simp⟩ (.present ⟨by simp, by simp⟩)
      (.present (.inl rfl) .plus three)
  have written : WrittenText (.object members) text.toList := by
    dsimp only [members, text]
    exact .element .none
      (.object
        (.moreMembers (.member (.more (by decide) .none) (x _) .none (.element .none
          (.array (.lastItem (.element .none (.emptyObject .none) .none))) .none))
        (.moreMembers (.member (.more (by decide) .none) (src _) (.more (by decide) .none)
          (.element (.more (by decide) .none) (.text (.cons (plain 'a' (by decide) _) .nil)) .none))
        (.lastMember (.member .none (x _) .none (.element .none (.negative (numeral _)) .none))))))
      (.more (by decide) .none)
  obtain ⟨accepted, contents, _, _⟩ := read_object_iff written
  obtain ⟨m, taken⟩ := accepted.mpr (by
    intro field
    cases field <;> simp [Field.key, members])
  refine ⟨written, m, taken, (contents m taken .src "a").mpr (by simp [Field.key, members]), ?_⟩
  refine Option.eq_none_iff_forall_ne_some.mpr fun content holds => ?_
  have member := (contents m taken .dest content).mp holds
  simp [Field.key, members] at member

end Message

end GatewaySim
