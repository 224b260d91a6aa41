import GatewaySim.Proofs.Config.Sources
import GatewaySim.Proofs.Config.Parts
import GatewaySim.Proofs.Json.Containers
import GatewaySim.Proofs.Json.Integers
import GatewaySim.Proofs.Json.Writing

/-! # Integers in the sources of a configuration

What a source of a configuration has for an integer (`Carries`). TOML has the integers of 64 bits
with a sign (`fits_of_toml`); in JSON an integer is written with as many digits as one likes, and
is held as some number that stands for it (`JsonSource.exists_number_of_literal`).
-/

namespace GatewaySim.Config

open Json (Number Digits WholePart Blanks Written WrittenText Follows signed literal)

variable {origin : Option Origin} {depth : Nat} {negative : Bool} {digits more : List Char}
  {value : Value} {number : Number}

/-- The values that the sources of a configuration have for integers: in TOML what is read as an
integer, and in JSON whatever digits are read as, with or without a sign. -/
inductive Carries : Int → Value → Prop where
  | toml {origin : Option Origin} {depth : Nat} {text : List Char} {n : Int} {rest : Rest text}
      (read : Toml.readValue origin depth text = some (.scalar origin (.integer n), rest)) :
      Carries n (.scalar origin (.integer n))
  | json {origin : Option Origin} {depth : Nat} {negative : Bool} {digits more : List Char}
      {value : Value} {rest : Rest (literal negative digits ++ more)} (valid : Digits digits)
      (read : JsonSource.readValue origin depth (literal negative digits ++ more) =
        .ok (value, rest))
      (whole : rest.1 = more) : Carries (signed negative digits) value

/-! ## Integers in JSON -/

namespace JsonSource

variable {text lead : List Char} {rest : Rest lead}

theorem map_readScalar_eq_ok_iff {back : Rest text → Rest lead}
    (kept : ∀ left, (back left).1 = left.1) :
    (readScalar negative text).map (fun read => (Value.scalar origin read.1, back read.2)) =
        .ok (value, rest) ↔
      ∃ number, Json.readNumber negative text = .ok (number, rest.1) ∧
        value = .scalar origin (scalarOf number) := by
  unfold readScalar
  split
  next failed => simp [Except.map, failed]
  next found => simp [Except.map, found, Subtype.ext_iff, kept, and_comm, eq_comm]

theorem readValue_eq_ok_iff_of_minus (blanks : Blanks lead ('-' :: text)) :
    readValue origin depth lead = .ok (value, rest) ↔
      ∃ number, Json.readNumber true text = .ok (number, rest.1) ∧
        value = .scalar origin (scalarOf number) := by
  obtain ⟨shorter, found⟩ := Json.next_of_blanks blanks rfl
  have branch : readValue origin depth lead = (readScalar true text).map fun read =>
      (.scalar origin read.1, Rest.within ⟨text, shorter⟩ read.2) := by
    rw [readValue.eq_def]
    simp only [found, Char.reduceEq, if_false, if_true]
    cases readScalar true text <;> rfl
  rw [branch]
  exact map_readScalar_eq_ok_iff fun _ => rfl

theorem readValue_eq_ok_iff_of_digit {c : Char} (blanks : Blanks lead (c :: text))
    (digit : c.isDigit) :
    readValue origin depth lead = .ok (value, rest) ↔
      ∃ number, Json.readNumber false (c :: text) = .ok (number, rest.1) ∧
        value = .scalar origin (scalarOf number) := by
  obtain ⟨solid, quote, bracket, brace, minus, _⟩ := Json.ne_of_isDigit digit
  obtain ⟨shorter, found⟩ := Json.next_of_blanks blanks solid
  have notLonger : (c :: text).length ≤ lead.length := shorter
  have branch : readValue origin depth lead = (readScalar false (c :: text)).map fun read =>
      (.scalar origin read.1, read.2.widen notLonger) := by
    rw [readValue.eq_def]
    simp only [found, quote, bracket, brace, minus, digit, if_false, if_true]
    cases readScalar false (c :: text) <;> rfl
  rw [branch]
  exact map_readScalar_eq_ok_iff fun _ => rfl

/-- What digits with a sign are read as. -/
theorem exists_number_of_literal {rest : Rest (literal negative digits ++ more)}
    (valid : Digits digits)
    (read : readValue origin depth (literal negative digits ++ more) = .ok (value, rest))
    (whole : rest.1 = more) :
    ∃ number, value = .scalar origin (scalarOf number) ∧
      number.Stands (signed negative digits) := by
  have found : ∃ number, Json.readNumber negative (digits ++ more) = .ok (number, rest.1) ∧
      value = .scalar origin (scalarOf number) := by
    cases negative with
    | true => exact (readValue_eq_ok_iff_of_minus .none).mp read
    | false =>
      obtain ⟨c, tail, rfl⟩ := List.exists_cons_of_ne_nil valid.1
      exact (readValue_eq_ok_iff_of_digit .none (valid.2 c List.mem_cons_self)).mp read
  rw [whole] at found
  obtain ⟨number, accepted, rfl⟩ := found
  exact ⟨number, rfl, Number.stands_of_value valid.2 (Json.value_of_readNumber valid accepted)⟩

end JsonSource

/-! ## Integers in TOML -/

theorem fits_of_fitting? {number n : Int}
    (fitting : Toml.fitting? number = some (.integer n)) : Signed64.fits n := by
  unfold Toml.fitting? at fitting
  split at fitting
  next fits =>
    cases fitting
    exact fits
  next => cases fitting

theorem fits_of_radixInteger? {base : Nat} {text : List Char} {n : Int}
    (read : Toml.radixInteger? base text = some (.integer n)) : Signed64.fits n := by
  obtain ⟨digits, _, fitting⟩ := Option.bind_eq_some_iff.mp read
  exact fits_of_fitting? fitting

theorem fits_of_decimal? {text : List Char} {n : Int}
    (read : Toml.decimal? negative text = some (.integer n)) : Signed64.fits n := by
  obtain ⟨whole, _, read⟩ := Option.bind_eq_some_iff.mp read
  dsimp only at read
  split at read
  next => exact fits_of_fitting? read
  next =>
    obtain ⟨fraction, _, read⟩ := Option.bind_eq_some_iff.mp read
    obtain ⟨exponent, _, read⟩ := Option.bind_eq_some_iff.mp read
    obtain ⟨units, _, same⟩ := Option.map_eq_some_iff.mp read
    cases same

theorem fits_of_scalar? {word : List Char} {n : Int}
    (read : Toml.scalar? word = some (.integer n)) : Signed64.fits n := by
  unfold Toml.scalar? at read
  split at read
  next => cases read
  next => cases read
  next => exact fits_of_radixInteger? read
  next => exact fits_of_radixInteger? read
  next => exact fits_of_radixInteger? read
  next =>
    dsimp only at read
    split at read
    next => cases read
    next => cases read
    next => exact fits_of_decimal? read

/-- What TOML has as an integer fits into 64 bits with a sign. -/
theorem fits_of_toml {text : List Char} {n : Int} {rest : Rest text}
    (read : Toml.readValue origin depth text = some (.scalar origin (.integer n), rest)) :
    Signed64.fits n := by
  -- arrays, tables and quoted texts are no integers, and neither are dates
  have unquoted : Toml.readUnquoted origin text = some (.scalar origin (.integer n), rest) := by
    cases depth with
    | zero =>
      rw [Toml.readValue] at read
      split at read
      next => cases read
      next => cases read
      next => split at read <;> first | exact read | cases read
    | succ depth =>
      rw [Toml.readValue] at read
      split at read
      next =>
        obtain ⟨_, _, same⟩ := Option.map_eq_some_iff.mp read
        cases same
      next =>
        obtain ⟨_, _, same⟩ := Option.map_eq_some_iff.mp read
        cases same
      next => split at read <;> first | exact read | cases read
  have word : Toml.readWord origin text = some (.scalar origin (.integer n), rest) := by
    unfold Toml.readUnquoted at unquoted
    split at unquoted
    next => cases unquoted
    next => exact unquoted
  cases text with
  | nil => cases word
  | cons c text =>
    rw [Toml.readWord] at word
    split at word
    next =>
      obtain ⟨content, found, same⟩ := Option.map_eq_some_iff.mp word
      cases same
      exact fits_of_scalar? found
    next => cases word

/-! ## Numbers that are read -/

namespace JsonSource

variable {lead text rest : List Char} {numeral : Json.Numeral}

/-- A number is read as what its numeral stands for. -/
theorem readValue_of_number (origin : Option Origin) (depth : Nat) (blanks : Blanks lead text)
    (written : Written (.value (.number negative numeral)) text rest) (follows : Follows rest)
    (accepted : numeral.value negative = .ok number) :
    ∃ lt,
      readValue origin depth lead = .ok (.scalar origin (scalarOf number), ⟨rest, lt⟩) := by
  cases written with
  | natural digits =>
    have read := Json.readNumber_of_written digits follows false
    rw [accepted] at read
    have shorter := Nat.lt_of_lt_of_le (Json.readNumber_length_lt read) blanks.length_le
    obtain ⟨c, tail, rfl, digit⟩ := Json.exists_digit_of_writtenNumeral digits
    exact ⟨shorter, (readValue_eq_ok_iff_of_digit blanks digit).mpr ⟨number, read, rfl⟩⟩
  | negative digits =>
    have read := Json.readNumber_of_written digits follows true
    rw [accepted] at read
    have shorter := Nat.lt_trans (Json.readNumber_length_lt read) blanks.length_le
    exact ⟨shorter, (readValue_eq_ok_iff_of_minus blanks).mpr ⟨number, read, rfl⟩⟩

theorem member_of_members {key : String} {tree : Json.Tree}
    (written : Written (.members [(key, tree)]) text rest) :
    Written (.member key tree) text rest := by
  cases written with
  | lastMember member => exact member
  | moreMembers _ none => cases none

/-- An object with a number as its only member is read as that, however it is written. -/
theorem read_of_member {key text : String} (origin : Option Origin)
    (written : WrittenText (.object [(key, .number negative numeral)]) text.toList)
    (accepted : numeral.value negative = .ok number) :
    JsonSource.read origin text = .ok [(key, .scalar origin (scalarOf number))] := by
  cases written with
  | element before value after =>
    cases value with
    | object within =>
      obtain ⟨_, brace⟩ := Json.next_of_blanks before rfl
      rw [JsonSource.read, readWhole, greatestDepth, readValue.eq_def]
      simp only [brace, Char.reduceEq, if_false, if_true]
      cases member_of_members within with
      | member quote chars colon element =>
        obtain ⟨_, named⟩ := Json.nextMember_of_key .first quote chars
        obtain ⟨_, separated⟩ := Json.readColon_of_blanks colon
        cases element with
        | element lead value trail =>
          have follows := Json.follows_of_blanks trail (Json.follows_cons (by decide))
          obtain ⟨_, item⟩ := readValue_of_number origin 126 lead value follows accepted
          obtain ⟨_, closed⟩ := Json.nextMember_of_close false trail
          rw [readMembers]
          simp only [named, separated, item]
          rw [readMembers]
          simp only [Rest.within, Rest.widen, closed, Json.readEnd_of_blanks after]
          rfl

end JsonSource

/-- Digits with a sign are carried as the number that they are accepted as. -/
theorem carries_of_value (origin : Option Origin) (whole : WholePart digits)
    (accepted : (⟨digits, [], none⟩ : Json.Numeral).value negative = .ok number) :
    Carries (signed negative digits) (.scalar origin (JsonSource.scalarOf number)) := by
  have numeral : Json.WrittenNumeral ⟨digits, [], none⟩ (digits ++ []) [] :=
    .parts whole .absent .absent
  have written : Written (.value (.number negative ⟨digits, [], none⟩))
      (literal negative digits ++ []) [] := by
    cases negative with
    | false => exact .natural numeral
    | true => exact .negative numeral
  have follows : Follows [] := fun _ => nofun
  obtain ⟨_, read⟩ := JsonSource.readValue_of_number origin 0 .none written follows accepted
  exact .json whole.1 read rfl

theorem signed_toDigits (n : Nat) : signed false (Nat.toDigits 10 n) = n := by
  rw [signed, Nat.ofDigitChars_ten_toDigits]
  rfl

/-! ## A source of one number -/

def saying (key : String) (n : Nat) : String :=
  (Json.Document.object [(key, .number n)]).compactText

def only (key : String) (origin : Option Origin) (content : Scalar) : Config :=
  ⟨.table none [(key, .scalar origin content)]⟩

theorem ofSources_saying {key : String} {n : Nat} (identifier : IsIdentifier key)
    (origin : Option Origin)
    (accepted : (⟨Nat.toDigits 10 n, [], none⟩ : Json.Numeral).value false = .ok number) :
    ofSources [.json origin (saying key n)] =
      .ok (only key origin (JsonSource.scalarOf number)) := by
  have written : WrittenText (.object [(key, .number false ⟨Nat.toDigits 10 n, [], none⟩)])
      (saying key n).toList :=
    Json.Document.writtenText_compactText (.object [(key, .number n)])
  have entries : (Source.json origin (saying key n)).entries =
      .ok [(key, .scalar origin (JsonSource.scalarOf number))] := by
    rw [Source.entries, JsonSource.read_of_member origin written accepted]
  have laid (content : Scalar) :
      ({} : Config).addEntries [(key, .scalar origin content)] = only key origin content := by
    rw [addEntries, List.foldl_cons, Path.ofKey_of_isIdentifier identifier]
    rfl
  simp [ofSources, entries, laid, bind, Except.bind, pure, Except.pure]

end GatewaySim.Config
