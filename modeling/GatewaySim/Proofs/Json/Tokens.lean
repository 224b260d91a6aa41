import GatewaySim.Proofs.Json.Syntax
import Mathlib.Data.List.TakeWhile

/-! # What the readers of tokens accept

The readers of blanks, keywords, strings and numerals against the grammar, the other way round: what
a reader gets through has been written by the productions. A reader of strings finds characters that
are spelled (`spelled_of_readText`); one that only passes over them finds a string of JSON
(`quoted_of_skipText`).
-/

namespace GatewaySim.Json

variable {text rest : List Char} {c : Char}

/-! ## Blanks and keywords -/

theorem mem_of_isBlank (blank : isBlank c) : c ∈ [' ', '\t', '\n', '\r'] := by
  simp only [isBlank, Bool.or_eq_true, decide_eq_true_eq] at blank
  rcases blank with ((rfl | rfl) | rfl) | rfl <;> decide

theorem blanks_skipBlanks (text : List Char) : Blanks text (skipBlanks text) := by
  induction text with
  | nil => exact .none
  | cons c text ih =>
    rw [skipBlanks]
    split
    next blank => exact .more (mem_of_isBlank blank) ih
    next => exact .none

theorem blanks_of_next {behind : Rest text} (found : next text = some (c, behind)) :
    Blanks text (c :: behind.1) := by
  unfold next at found
  split at found
  next => cases found
  next skipped =>
    cases found
    exact skipped ▸ blanks_skipBlanks text

theorem blanks_of_readEnd (ended : readEnd text = .ok ()) : Blanks text [] := by
  unfold readEnd at ended
  split at ended
  next empty => exact List.isEmpty_iff.mp empty ▸ blanks_skipBlanks text
  next => cases ended

theorem eq_append_of_readKeyword {letters : List Char}
    (read : readKeyword letters text = .ok rest) : text = letters ++ rest := by
  induction letters generalizing text with
  | nil =>
    cases read
    rfl
  | cons letter letters ih =>
    cases text with
    | nil => cases read
    | cons c text =>
      rw [readKeyword] at read
      split at read
      next same => rw [same, ih read, List.cons_append]
      next => cases read

/-! ## Strings -/

theorem hexDigit_of_hexValue? {value : Nat} (stands : Text.hexValue? c = some value) :
    HexDigit value c := by
  have table : ∀ code : Fin 103, (Text.hexValue? (Char.ofNat code)).all fun value =>
      "0123456789abcdef".toList[value]? = some (Char.ofNat code) ∨
        "0123456789ABCDEF".toList[value]? = some (Char.ofNat code) := by decide
  have small : c.toNat < 103 := by
    unfold Text.hexValue? at stands
    simp only [Char.le_def, UInt32.le_iff_toNat_le] at stands
    change c.val.toNat < 103
    split at stands
    next digit => exact Nat.lt_of_le_of_lt digit.2 (by decide)
    next =>
      split at stands
      next lower => exact Nat.lt_of_le_of_lt lower.2 (by decide)
      next =>
        split at stands
        next upper => exact Nat.lt_of_le_of_lt upper.2 (by decide)
        next => cases stands
  have entry := table ⟨c.toNat, small⟩
  rw [Char.ofNat_toNat, stands, Option.all_some, decide_eq_true_eq] at entry
  exact entry

theorem unit16_of_readUnit {value : Nat} {behind : Rest text}
    (read : readUnit text = .ok (value, behind)) : Unit16 value text behind.1 := by
  unfold readUnit at read
  split at read
  next a b c d rest =>
    split at read
    next w x y z first second third fourth =>
      cases read
      have value : ((w * 16 + x) * 16 + y) * 16 + z = w * 0x1000 + x * 0x100 + y * 0x10 + z := by
        omega
      rw [value]
      exact .digits (hexDigit_of_hexValue? first) (hexDigit_of_hexValue? second)
        (hexDigit_of_hexValue? third) (hexDigit_of_hexValue? fourth)
    next => cases read
  next => split at read <;> cases read

theorem lt_of_hexDigit {value : Nat} (digit : HexDigit value c) : value < 16 := by
  rcases digit with found | found
  · exact (List.getElem?_eq_some_iff.mp found).1
  · exact (List.getElem?_eq_some_iff.mp found).1

theorem Unit16.lt {value : Nat} (unit : Unit16 value text rest) : value < 0x10000 := by
  cases unit with
  | digits first second third fourth =>
    have := lt_of_hexDigit first
    have := lt_of_hexDigit second
    have := lt_of_hexDigit third
    have := lt_of_hexDigit fourth
    omega

/-- A number that is no surrogate is that of a character. -/
theorem toNat_ofNat_of_valid (value : Nat)
    (valid : value < 0xd800 ∨ 0xdfff < value ∧ value < 0x110000) :
    (Char.ofNat value).toNat = value := by
  rw [Char.ofNat, dif_pos valid]
  rfl

/-- Two units that are the halves of a pair spell the character that they encode. -/
theorem spelledChar_of_units {high low : Nat} {more : List Char}
    (leading : 0xd800 ≤ high ∧ high ≤ 0xdbff) (trailing : 0xdc00 ≤ low ∧ low ≤ 0xdfff)
    (first : Unit16 high text ('\\' :: 'u' :: more)) (second : Unit16 low more rest) :
    SpelledChar (Char.ofNat ((high - 0xd800) * 0x400 + (low - 0xdc00) + 0x10000))
      ('\\' :: 'u' :: text) rest := by
  generalize encoded : (high - 0xd800) * 0x400 + (low - 0xdc00) + 0x10000 = code
  have value := toNat_ofNat_of_valid code (by omega)
  have high_eq : 0xd800 + ((Char.ofNat code).toNat - 0x10000) / 0x400 = high := by omega
  have low_eq : 0xdc00 + ((Char.ofNat code).toNat - 0x10000) % 0x400 = low := by omega
  rw [← high_eq] at first
  rw [← low_eq] at second
  exact .pair (by omega) first second

theorem spelledChar_of_readCodePoint {behind : Rest text}
    (read : readCodePoint text = .ok (c, behind)) :
    SpelledChar c ('\\' :: 'u' :: text) behind.1 := by
  unfold readCodePoint at read
  split at read
  next => cases read
  next unit left first =>
    have unit16 := unit16_of_readUnit first
    have small := unit16.lt
    split at read
    next => cases read
    next notTrailing =>
      simp only [isTrailing, Bool.and_eq_true, decide_eq_true_eq, not_and] at notTrailing
      split at read
      next notLeading =>
        cases read
        simp only [isLeading, Bool.not_eq_true', Bool.and_eq_false_iff,
          decide_eq_false_iff_not] at notLeading
        have value := toNat_ofNat_of_valid unit (by omega)
        refine .unit ?_
        rw [value]
        exact unit16
      next leading =>
        simp only [isLeading, Bool.not_eq_true', Bool.not_eq_false, Bool.and_eq_true,
          decide_eq_true_eq] at leading
        split at read
        next => cases read
        next => cases read
        next more pair =>
          split at read
          next => cases read
          next second last after =>
            split at read
            next trailing =>
              obtain ⟨rfl, rfl⟩ := Prod.mk.inj (Except.ok.inj read)
              simp only [isTrailing, Bool.and_eq_true, decide_eq_true_eq] at trailing
              have onward : Unit16 second more last.1 := unit16_of_readUnit after
              rw [pair] at unit16
              exact spelledChar_of_units leading trailing unit16 onward
            next => cases read
        next => cases read

theorem known_of_shortEscape? {letter : Char} (stands : shortEscape? letter = some c) :
    (letter, c) ∈ letterEscapes := by
  unfold shortEscape? at stands
  split at stands
  next same =>
    cases stands
    rcases same with rfl | rfl | rfl <;> decide
  next =>
    iterate 5
      split at stands
      next same =>
        cases stands
        subst same
        decide
    cases stands

theorem spelledChar_of_readEscape {behind : Rest text}
    (read : readEscape text = .ok (c, behind)) : SpelledChar c ('\\' :: text) behind.1 := by
  unfold readEscape at read
  split at read
  next => cases read
  next letter text =>
    split at read
    next unit =>
      subst unit
      split at read
      next => cases read
      next codePoint =>
        cases read
        exact spelledChar_of_readCodePoint codePoint
    next =>
      split at read
      next stands =>
        cases read
        exact .letter (known_of_shortEscape? stands)
      next => cases read

theorem exists_spelled_of_readTextFrom {before value : List Char}
    (read : readTextFrom before text = .ok (value, rest)) :
    ∃ s, value = before.reverse ++ s ∧ Spelled s text ('"' :: rest) := by
  fun_induction readTextFrom before text with
  | case2 before rest =>
    cases read
    exact ⟨[], (List.append_nil _).symm, .nil⟩
  | case4 before text c behind escaped _ ih =>
    obtain ⟨s, rfl, onward⟩ := ih read
    exact ⟨c :: s, by simp, .cons (spelledChar_of_readEscape escaped) onward⟩
  | case6 before c text quote backslash printable ih =>
    obtain ⟨s, rfl, onward⟩ := ih read
    refine ⟨c :: s, by simp, .cons ?_ onward⟩
    exact .plain quote backslash (Nat.not_lt.mp printable)
  | case1 | case3 | case5 => cases read

theorem spelled_of_readText {value : String} {behind : Rest text}
    (read : readText text = .ok (value, behind)) :
    Spelled value.toList text ('"' :: behind.1) := by
  unfold readText at read
  split at read
  next => cases read
  next found =>
    cases read
    obtain ⟨s, rfl, spelled⟩ := exists_spelled_of_readTextFrom found
    simpa using spelled

/-! ### Passing over strings -/

theorem quoted_of_skipEscape {behind : Rest text} (skipped : skipEscape text = .ok behind)
    (onward : Quoted behind.1 rest) : Quoted ('\\' :: text) rest := by
  unfold skipEscape at skipped
  split at skipped
  next => cases skipped
  next letter text =>
    split at skipped
    next unit =>
      subst unit
      split at skipped
      next => cases skipped
      next read =>
        cases skipped
        exact .unit (unit16_of_readUnit read) onward
    next =>
      split at skipped
      next known =>
        cases skipped
        obtain ⟨c, stands⟩ := Option.isSome_iff_exists.mp known
        exact .letter (known_of_shortEscape? stands) onward
      next => cases skipped

theorem quoted_of_skipText (skipped : skipText text = .ok rest) : Quoted text rest := by
  fun_induction skipText text with
  | case2 rest =>
    cases skipped
    exact .close
  | case4 text behind escaped _ ih => exact quoted_of_skipEscape escaped (ih skipped)
  | case6 c text quote backslash printable ih =>
    exact .plain quote backslash (Nat.not_lt.mp printable) (ih skipped)
  | case1 | case3 | case5 => cases skipped

/-! ## Numerals -/

theorem splitDigits_spec (text : List Char) :
    text = (splitDigits text).1 ++ (splitDigits text).2 ∧
      ∀ c, c ∈ (splitDigits text).1 → c.isDigit :=
  ⟨(List.takeWhile_append_dropWhile ..).symm, fun _ => List.mem_takeWhile_imp⟩

theorem wholePart_of_readWhole {digits : List Char} (read : readWhole text = .ok (digits, rest)) :
    text = digits ++ rest ∧ WholePart digits := by
  obtain ⟨parts, all⟩ := splitDigits_spec text
  unfold readWhole at read
  generalize splitDigits text = split at read parts all
  obtain ⟨found, left⟩ := split
  dsimp only at read parts all
  split at read
  next => cases read
  next => cases read
  next nonempty single =>
    cases read
    refine ⟨parts, ⟨nonempty, all⟩, fun zero => ?_⟩
    cases digits with
    | nil => exact absurd rfl nonempty
    | cons first more =>
      cases zero
      cases more with
      | nil => rfl
      | cons second more => exact absurd rfl (single second more)

theorem fractionPart_of_readFraction {digits : List Char}
    (read : readFraction text = .ok (digits, rest)) : FractionPart digits text rest := by
  unfold readFraction at read
  split at read
  next behind =>
    obtain ⟨parts, all⟩ := splitDigits_spec behind
    generalize splitDigits behind = split at read parts all
    obtain ⟨found, left⟩ := split
    dsimp only at read parts all
    split at read
    next => cases read
    next nonempty =>
      cases read
      rw [parts]
      exact .present ⟨fun none => nonempty (List.isEmpty_iff.mpr none), all⟩
  next =>
    cases read
    exact .absent

theorem exponentSign_of_readExponentSign (text : List Char) :
    ExponentSign (readExponentSign text).1 text (readExponentSign text).2 := by
  unfold readExponentSign
  split
  next => exact .minus
  next => exact .plus
  next => exact .absent

theorem exponentPart_of_readExponent {exponent : Option Int}
    (read : readExponent text = .ok (exponent, rest)) : ExponentPart exponent text rest := by
  unfold readExponent at read
  split at read
  next =>
    cases read
    exact .absent
  next c behind =>
    split at read
    next marked =>
      have sign := exponentSign_of_readExponentSign behind
      generalize readExponentSign behind = signed at read sign
      obtain ⟨negative, unsigned⟩ := signed
      obtain ⟨parts, all⟩ := splitDigits_spec unsigned
      dsimp only at read sign
      generalize splitDigits unsigned = split at read parts all
      obtain ⟨found, left⟩ := split
      dsimp only at read parts all
      split at read
      next => cases read
      next nonempty =>
        cases read
        rw [parts] at sign
        exact .present marked sign ⟨fun none => nonempty (List.isEmpty_iff.mpr none), all⟩
    next =>
      cases read
      exact .absent

theorem writtenNumeral_of_readNumeral {numeral : Numeral}
    (read : readNumeral text = .ok (numeral, rest)) : WrittenNumeral numeral text rest := by
  unfold readNumeral at read
  split at read
  next => cases read
  next whole =>
    split at read
    next => cases read
    next fraction =>
      split at read
      next => cases read
      next exponent =>
        cases read
        obtain ⟨rfl, valid⟩ := wholePart_of_readWhole whole
        exact @WrittenNumeral.parts ⟨_, _, _⟩ _ _ _ valid (fractionPart_of_readFraction fraction)
          (exponentPart_of_readExponent exponent)

theorem exists_numeral_of_skipNumeral (skipped : skipNumeral text = .ok rest) :
    ∃ numeral, WrittenNumeral numeral text rest := by
  unfold skipNumeral at skipped
  split at skipped
  next => cases skipped
  next read =>
    cases skipped
    exact ⟨_, writtenNumeral_of_readNumeral read⟩

end GatewaySim.Json
