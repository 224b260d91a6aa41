import GatewaySim.Json.Text
import GatewaySim.Proofs.Json.Grammar

/-! # Reading strings

The readers of blanks and of strings against the grammar. However the characters of a string are
spelled, the reader finds the string and stops behind its closing quote (`readText_of_spelled`), and
so does the one that only passes over it (`skipText_of_quoted`).
-/

namespace GatewaySim.Json

/-! ## Blanks -/

theorem isBlank_of_mem {c : Char} (blank : c ∈ [' ', '\t', '\n', '\r']) : isBlank c := by
  simp only [List.mem_cons, List.not_mem_nil, or_false] at blank
  rcases blank with rfl | rfl | rfl | rfl <;> rfl

theorem skipBlanks_of_blanks {text rest : List Char} (blanks : Blanks text rest) :
    skipBlanks text = skipBlanks rest := by
  induction blanks with
  | none => rfl
  | more blank _ ih => rw [skipBlanks, if_pos (isBlank_of_mem blank), ih]

theorem Blanks.length_le {text rest : List Char} (blanks : Blanks text rest) :
    rest.length ≤ text.length := by
  induction blanks with
  | none => exact Nat.le_refl _
  | more _ _ ih => exact Nat.le_succ_of_le ih

/-- Behind blanks, the next character is found. -/
theorem next_of_blanks {text rest : List Char} {c : Char} (blanks : Blanks text (c :: rest))
    (solid : isBlank c = false) : ∃ lt, next text = some (c, ⟨rest, lt⟩) := by
  have skipped : skipBlanks text = c :: rest := by
    rw [skipBlanks_of_blanks blanks, skipBlanks, solid]
    rfl
  unfold next
  split
  next none => simp [skipped] at none
  next found =>
    rw [skipped] at found
    cases found
    exact ⟨blanks.length_le, rfl⟩

theorem readEnd_of_blanks {text : List Char} (blanks : Blanks text []) : readEnd text = .ok () := by
  rw [readEnd, skipBlanks_of_blanks blanks]
  rfl

/-! ## Strings -/

theorem hexValue?_of_hexDigit {value : Nat} {c : Char} (digit : HexDigit value c) :
    Text.hexValue? c = some value := by
  have lower : ∀ entry, entry ∈ "0123456789abcdef".toList.zipIdx →
      Text.hexValue? entry.1 = some entry.2 := by decide
  have upper : ∀ entry, entry ∈ "0123456789ABCDEF".toList.zipIdx →
      Text.hexValue? entry.1 = some entry.2 := by decide
  rcases digit with found | found
  · exact lower (c, value) (List.mem_zipIdx_iff_getElem?.mpr found)
  · exact upper (c, value) (List.mem_zipIdx_iff_getElem?.mpr found)

theorem readUnit_of_unit16 {value : Nat} {text rest : List Char} (unit : Unit16 value text rest) :
    ∃ lt, readUnit text = .ok (value, ⟨rest, lt⟩) := by
  cases unit with
  | @digits w x y z a b c d _ first second third fourth =>
    have value : ((w * 16 + x) * 16 + y) * 16 + z = w * 0x1000 + x * 0x100 + y * 0x10 + z := by
      omega
    simp only [readUnit, hexValue?_of_hexDigit first, hexValue?_of_hexDigit second,
      hexValue?_of_hexDigit third, hexValue?_of_hexDigit fourth, value]
    exact ⟨by simp only [List.length_cons]; omega, rfl⟩

/-- Characters are not surrogates. -/
theorem toNat_lt_or_lt (c : Char) :
    c.toNat < 0xd800 ∨ 0xdfff < c.toNat ∧ c.toNat < 0x110000 := by
  have valid := c.valid
  unfold UInt32.isValidChar Nat.isValidChar at valid
  exact valid

theorem readCodePoint_of_unit {c : Char} {text rest : List Char}
    (unit : Unit16 c.toNat text rest) :
    ∃ lt, readCodePoint text = .ok (c, ⟨rest, lt⟩) := by
  obtain ⟨lt, read⟩ := readUnit_of_unit16 unit
  have range := toNat_lt_or_lt c
  have trailing : isTrailing c.toNat = false := by
    simp only [isTrailing, Bool.and_eq_false_iff, decide_eq_false_iff_not]
    omega
  have leading : isLeading c.toNat = false := by
    simp only [isLeading, Bool.and_eq_false_iff, decide_eq_false_iff_not]
    omega
  simp only [readCodePoint, read, trailing, leading]
  exact ⟨lt, by simp⟩

theorem readCodePoint_of_pair {c : Char} {text more rest : List Char}
    (beyond : 0x10000 ≤ c.toNat)
    (first : Unit16 (0xd800 + (c.toNat - 0x10000) / 0x400) text ('\\' :: 'u' :: more))
    (second : Unit16 (0xdc00 + (c.toNat - 0x10000) % 0x400) more rest) :
    ∃ lt, readCodePoint text = .ok (c, ⟨rest, lt⟩) := by
  obtain ⟨firstLt, readFirst⟩ := readUnit_of_unit16 first
  obtain ⟨secondLt, readSecond⟩ := readUnit_of_unit16 second
  have range := toNat_lt_or_lt c
  have notTrailing : isTrailing (0xd800 + (c.toNat - 0x10000) / 0x400) = false := by
    simp only [isTrailing, Bool.and_eq_false_iff, decide_eq_false_iff_not]
    omega
  have leading : isLeading (0xd800 + (c.toNat - 0x10000) / 0x400) = true := by
    simp only [isLeading, Bool.and_eq_true, decide_eq_true_eq]
    omega
  have trailing : isTrailing (0xdc00 + (c.toNat - 0x10000) % 0x400) = true := by
    simp only [isTrailing, Bool.and_eq_true, decide_eq_true_eq]
    omega
  have value : (0xd800 + (c.toNat - 0x10000) / 0x400 - 0xd800) * 0x400 +
      (0xdc00 + (c.toNat - 0x10000) % 0x400 - 0xdc00) + 0x10000 = c.toNat := by omega
  have lt : rest.length < text.length := by
    simp only [List.length_cons] at firstLt
    omega
  simp only [readCodePoint, readFirst, notTrailing, leading, readSecond, trailing, value,
    Char.ofNat_toNat]
  exact ⟨lt, by simp⟩

theorem readEscape_of_letter {letter c : Char} (known : (letter, c) ∈ letterEscapes)
    (rest : List Char) : ∃ lt, readEscape (letter :: rest) = .ok (c, ⟨rest, lt⟩) := by
  have table : ∀ entry, entry ∈ letterEscapes →
      entry.1 ≠ 'u' ∧ shortEscape? entry.1 = some entry.2 := by decide
  obtain ⟨other, stands⟩ := table (letter, c) known
  simp only [readEscape, if_neg other, stands]
  exact ⟨Nat.lt_succ_self _, rfl⟩

theorem readEscape_of_codePoint {c : Char} {text rest : List Char} {lt}
    (read : readCodePoint text = .ok (c, ⟨rest, lt⟩)) :
    ∃ lt, readEscape ('u' :: text) = .ok (c, ⟨rest, lt⟩) := by
  simp only [readEscape, read, if_true]
  exact ⟨Nat.lt_succ_of_lt lt, rfl⟩

theorem readTextFrom_of_escape {c : Char} {text rest : List Char} {lt}
    (read : readEscape text = .ok (c, ⟨rest, lt⟩)) (before : List Char) :
    readTextFrom before ('\\' :: text) = readTextFrom (c :: before) rest := by
  rw [readTextFrom, if_neg (by decide), if_pos rfl, read]

/-- However a character is spelled, the reader goes on behind it. -/
theorem readTextFrom_of_spelledChar {c : Char} {text rest : List Char}
    (spelled : SpelledChar c text rest) (before : List Char) :
    readTextFrom before text = readTextFrom (c :: before) rest := by
  cases spelled with
  | plain quote backslash printable =>
    rw [readTextFrom, if_neg quote, if_neg backslash, if_neg (Nat.not_lt.mpr printable)]
  | letter known =>
    obtain ⟨_, read⟩ := readEscape_of_letter known rest
    exact readTextFrom_of_escape read before
  | unit unit =>
    obtain ⟨_, codePoint⟩ := readCodePoint_of_unit unit
    obtain ⟨_, read⟩ := readEscape_of_codePoint codePoint
    exact readTextFrom_of_escape read before
  | pair beyond leading trailing =>
    obtain ⟨_, codePoint⟩ := readCodePoint_of_pair beyond leading trailing
    obtain ⟨_, read⟩ := readEscape_of_codePoint codePoint
    exact readTextFrom_of_escape read before

theorem readTextFrom_of_spelled {s text closed : List Char} (spelled : Spelled s text closed)
    (before : List Char) :
    readTextFrom before text = readTextFrom (s.reverse ++ before) closed := by
  induction spelled generalizing before with
  | nil => rfl
  | cons char _ ih =>
    rw [readTextFrom_of_spelledChar char, ih, List.reverse_cons, List.append_assoc]
    rfl

theorem readText_of_spelled {value : String} {text rest : List Char}
    (spelled : Spelled value.toList text ('"' :: rest)) :
    ∃ lt, readText text = .ok (value, ⟨rest, lt⟩) := by
  have read : readTextFrom [] text = .ok (value.toList, rest) := by
    rw [readTextFrom_of_spelled spelled, readTextFrom, if_pos rfl, List.append_nil,
      List.reverse_reverse]
  have lt := readTextFrom_length_lt read
  unfold readText
  split
  next failed =>
    rw [read] at failed
    cases failed
  next found =>
    rw [read] at found
    cases found
    exact ⟨lt, by rw [String.ofList_toList]⟩

/-! ### Passing over strings -/

theorem skipEscape_of_unit16 {value : Nat} {text rest : List Char}
    (unit : Unit16 value text rest) :
    ∃ lt, skipEscape ('u' :: text) = .ok ⟨rest, lt⟩ := by
  obtain ⟨lt, read⟩ := readUnit_of_unit16 unit
  simp only [skipEscape, read, if_true]
  exact ⟨Nat.lt_succ_of_lt lt, rfl⟩

theorem skipText_of_escape {text rest : List Char} {lt}
    (skipped : skipEscape text = .ok ⟨rest, lt⟩) : skipText ('\\' :: text) = skipText rest := by
  rw [skipText, if_neg (by decide), if_pos rfl, skipped]

theorem skipText_of_spelledChar {c : Char} {text rest : List Char}
    (spelled : SpelledChar c text rest) : skipText text = skipText rest := by
  cases spelled with
  | plain quote backslash printable =>
    rw [skipText, if_neg quote, if_neg backslash, if_neg (Nat.not_lt.mpr printable)]
  | @letter letter _ known =>
    have table : ∀ entry, entry ∈ letterEscapes →
        entry.1 ≠ 'u' ∧ (shortEscape? entry.1).isSome := by decide
    obtain ⟨other, stands⟩ := table (letter, c) known
    have skipped : skipEscape (letter :: rest) = .ok ⟨rest, Nat.lt_succ_self _⟩ := by
      simp only [skipEscape, if_neg other, stands, if_true]
      rfl
    exact skipText_of_escape skipped
  | unit unit =>
    obtain ⟨_, skipped⟩ := skipEscape_of_unit16 unit
    exact skipText_of_escape skipped
  | pair _ leading trailing =>
    -- Skipping takes the two units of a pair for two escapes.
    obtain ⟨_, first⟩ := skipEscape_of_unit16 leading
    obtain ⟨_, second⟩ := skipEscape_of_unit16 trailing
    rw [skipText_of_escape first, skipText_of_escape second]

theorem skipText_of_spelled {s text closed : List Char} (spelled : Spelled s text closed) :
    skipText text = skipText closed := by
  induction spelled with
  | nil => rfl
  | cons char _ ih => rw [skipText_of_spelledChar char, ih]

theorem skipText_of_quoted {s text rest : List Char} (spelled : Spelled s text ('"' :: rest)) :
    skipText text = .ok rest := by
  rw [skipText_of_spelled spelled, skipText, if_pos rfl]

end GatewaySim.Json
