import GatewaySim.Proofs.Json.Grammar

/-! # Reading numerals

The readers of numerals against the grammar. A numeral has no closing mark, so where it ends depends
on what follows it; before a blank or the punctuation of a container it is read to its end
(`readNumeral_of_written`).
-/

namespace GatewaySim.Json

/-- What may follow a value: a blank, or what goes on with or ends the container around it. -/
def Follows (text : List Char) : Prop :=
  ∀ c, text.head? = some c → c ∈ [' ', '\t', '\n', '\r', ',', ']', '}']

def NoDigit (text : List Char) : Prop := ∀ c, text.head? = some c → c.isDigit = false

theorem noDigit_of_follows {text : List Char} (follows : Follows text) : NoDigit text := by
  have table : ∀ c, c ∈ [' ', '\t', '\n', '\r', ',', ']', '}'] → c.isDigit = false := by
    simp
  exact fun c head => table c (follows c head)

theorem noDigit_cons {c : Char} (other : c.isDigit = false) (rest : List Char) :
    NoDigit (c :: rest) := by
  intro first head
  cases head
  exact other

theorem splitDigits_append {digits rest : List Char} (all : ∀ c, c ∈ digits → c.isDigit)
    (stop : NoDigit rest) : splitDigits (digits ++ rest) = (digits, rest) := by
  have taken : rest.takeWhile Char.isDigit = [] ∧ rest.dropWhile Char.isDigit = rest := by
    cases rest with
    | nil => exact ⟨rfl, rfl⟩
    | cons c rest => simp [stop c rfl]
  rw [splitDigits, List.takeWhile_append_of_pos all, List.dropWhile_append_of_pos all, taken.1,
    taken.2, List.append_nil]

/-- The digits of a number end where no digit follows. -/
theorem toDigits_append_inj {m n : Nat} {rest others : List Char} (stop : NoDigit rest)
    (stopToo : NoDigit others) (same : Nat.toDigits 10 m ++ rest = Nat.toDigits 10 n ++ others) :
    m = n ∧ rest = others := by
  have digits (number : Nat) (c : Char) (member : c ∈ Nat.toDigits 10 number) : c.isDigit :=
    Nat.isDigit_of_mem_toDigits (by decide) (by decide) member
  have parts := congrArg splitDigits same
  rw [splitDigits_append (digits m) stop, splitDigits_append (digits n) stopToo] at parts
  obtain ⟨numbers, rests⟩ := Prod.mk.inj parts
  refine ⟨?_, rests⟩
  rw [← Nat.ofDigitChars_ten_toDigits (n := m), numbers, Nat.ofDigitChars_ten_toDigits]

theorem noDigit_of_exponentPart {exponent : Option Int} {text rest : List Char}
    (part : ExponentPart exponent text rest) (follows : Follows rest) : NoDigit text := by
  cases part with
  | absent => exact noDigit_of_follows follows
  | present marked => rcases marked with rfl | rfl <;> exact noDigit_cons rfl _

theorem noPoint_of_exponentPart {exponent : Option Int} {text rest : List Char}
    (part : ExponentPart exponent text rest) (follows : Follows rest) :
    text.head? ≠ some '.' := by
  cases part with
  | absent => exact fun head => absurd (follows '.' head) (by decide)
  | present marked => rcases marked with rfl | rfl <;> simp

theorem noDigit_of_fractionPart {fraction text rest : List Char}
    (part : FractionPart fraction text rest) (stop : NoDigit rest) : NoDigit text := by
  cases part with
  | absent => exact stop
  | present => exact noDigit_cons rfl _

theorem readWhole_append {whole rest : List Char} (part : WholePart whole) (stop : NoDigit rest) :
    readWhole (whole ++ rest) = .ok (whole, rest) := by
  obtain ⟨⟨nonempty, all⟩, zero⟩ := part
  unfold readWhole
  rw [splitDigits_append all stop]
  cases whole with
  | nil => exact absurd rfl nonempty
  | cons c digits =>
    by_cases leading : c = '0'
    · subst leading
      have lone : digits = [] := List.cons_inj_right _ |>.mp (zero rfl)
      subst lone
      rfl
    · dsimp only
      split
      next none => cases none
      next found =>
        cases found
        exact absurd rfl leading
      next => rfl

theorem readFraction_of_part {fraction text rest : List Char}
    (part : FractionPart fraction text rest) (stop : NoDigit rest)
    (noPoint : rest.head? ≠ some '.') : readFraction text = .ok (fraction, rest) := by
  cases part with
  | absent =>
    unfold readFraction
    split
    next => exact absurd rfl noPoint
    next => rfl
  | present valid =>
    obtain ⟨nonempty, all⟩ := valid
    simp [readFraction, splitDigits_append all stop, nonempty]

theorem readExponentSign_of_sign {negative : Bool} {text digits rest : List Char}
    (sign : ExponentSign negative text (digits ++ rest)) (valid : Digits digits) :
    readExponentSign text = (negative, digits ++ rest) := by
  obtain ⟨nonempty, all⟩ := valid
  cases sign with
  | plus | minus => rfl
  | absent =>
    obtain ⟨c, more, rfl⟩ := List.exists_cons_of_ne_nil nonempty
    have digit := all c (List.mem_cons_self ..)
    unfold readExponentSign
    split
    next found =>
      cases found
      exact absurd digit (by decide)
    next found =>
      cases found
      exact absurd digit (by decide)
    next => rfl

theorem readExponent_of_part {exponent : Option Int} {text rest : List Char}
    (part : ExponentPart exponent text rest) (follows : Follows rest) :
    readExponent text = .ok (exponent, rest) := by
  cases part with
  | absent =>
    have table : ∀ c, c ∈ [' ', '\t', '\n', '\r', ',', ']', '}'] →
        ¬ (c = 'e' ∨ c = 'E') := by simp
    cases text with
    | nil => rfl
    | cons c more => rw [readExponent, if_neg (table c (follows c rfl))]
  | present marked sign valid =>
    have stop := noDigit_of_follows follows
    simp [readExponent, marked, readExponentSign_of_sign sign valid,
      splitDigits_append valid.2 stop, valid.1]

/-- Before what may follow a value, a numeral is read to its end. -/
theorem readNumeral_of_written {numeral : Numeral} {text rest : List Char}
    (written : WrittenNumeral numeral text rest) (follows : Follows rest) :
    readNumeral text = .ok (numeral, rest) := by
  cases written with
  | @parts more behind _ whole fraction exponent =>
    have behindStop := noDigit_of_exponentPart exponent follows
    have noPoint := noPoint_of_exponentPart exponent follows
    have stop := noDigit_of_fractionPart fraction behindStop
    simp only [readNumeral, readWhole_append whole stop,
      readFraction_of_part fraction behindStop noPoint, readExponent_of_part exponent follows]

theorem skipNumeral_of_written {numeral : Numeral} {text rest : List Char}
    (written : WrittenNumeral numeral text rest) (follows : Follows rest) :
    skipNumeral text = .ok rest := by
  simp only [skipNumeral, readNumeral_of_written written follows]

theorem readNumber_of_written {numeral : Numeral} {text rest : List Char}
    (written : WrittenNumeral numeral text rest) (follows : Follows rest) (negative : Bool) :
    readNumber negative text = (numeral.value negative).map fun number => (number, rest) := by
  simp only [readNumber, readNumeral_of_written written follows]
  cases numeral.value negative <;> rfl

theorem exists_digit_of_writtenNumeral {numeral : Numeral} {text rest : List Char}
    (written : WrittenNumeral numeral text rest) :
    ∃ c more, text = c :: more ∧ c.isDigit := by
  cases written with
  | parts whole =>
    obtain ⟨⟨nonempty, all⟩, _⟩ := whole
    obtain ⟨c, digits, found⟩ := List.exists_cons_of_ne_nil nonempty
    exact ⟨c, _, by rw [found]; rfl, all c (found ▸ List.mem_cons_self ..)⟩

end GatewaySim.Json
