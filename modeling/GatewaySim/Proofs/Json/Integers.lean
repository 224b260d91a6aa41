import GatewaySim.Proofs.Json.Tokens
import GatewaySim.Proofs.Number.Rounding

/-! # What the numerals of integers stand for

A numeral of digits only is an integer. Within 64 bits it is held as one; beyond, it is held as a
floating point number, of which no more is said here than what becomes of it among the integers of
64 bits (`Number.Stands`).
-/

namespace GatewaySim.Json

namespace Numeral

open Binary64 (unit unit_pos roundUnits)

variable {digits : List Char} {value : Nat}

/-! ## Digits up to 64 bits -/

theorem le_ofDigitChars (value : Nat) (digits : List Char) :
    value ≤ Nat.ofDigitChars 10 digits value := by
  have longer := Nat.le_mul_of_pos_left value (Nat.pow_pos (by decide) : 0 < 10 ^ digits.length)
  rw [Nat.ofDigitChars_eq_ofDigitChars_zero]
  omega

theorem toNat_sub_le_of_isDigit {c : Char} (digit : c.isDigit) : c.toNat - 48 ≤ 9 := by
  simp only [Char.isDigit, Bool.and_eq_true, decide_eq_true_eq, ge_iff_le, UInt32.le_iff_toNat_le]
    at digit
  have upper : c.toNat ≤ 57 := digit.2
  omega

/-- Either all digits are taken up, or the number they spell does not fit into 64 bits and what has
been taken up is close to the limit. -/
theorem absorb_spec (all : ∀ c, c ∈ digits → c.isDigit) (small : value ≤ greatestWord) :
    (absorb value digits = (Nat.ofDigitChars 10 digits value, []) ∧
      Nat.ofDigitChars 10 digits value ≤ greatestWord) ∨
    ∃ kept c dropped, absorb value digits = (kept, c :: dropped) ∧ kept ≤ greatestWord ∧
      greatestWord < 10 * kept + 10 ∧ greatestWord < Nat.ofDigitChars 10 digits value := by
  induction digits generalizing value with
  | nil => exact .inl ⟨rfl, small⟩
  | cons c rest ih =>
    rw [List.forall_mem_cons] at all
    rw [absorb, Nat.ofDigitChars_cons]
    split
    next exceeds =>
      have digit := toNat_sub_le_of_isDigit all.1
      have onward := le_ofDigitChars (10 * value + (c.toNat - 48)) rest
      exact .inr ⟨value, c, rest, rfl, small, by omega, Nat.lt_of_lt_of_le exceeds onward⟩
    next within => exact ih all.2 (Nat.not_lt.mp within)

/-! ## Beyond 64 bits -/

theorem lt_overflow_of_le {units bound : Nat} (le : units ≤ bound)
    (small : bound + bound / 2 ^ 52 + 1 < Binary64.overflow) :
    units + units / 2 ^ 52 + 1 < Binary64.overflow := by
  have part := Nat.div_le_div_right le (c := 2 ^ 52)
  omega

theorem power_lt_overflow {exponent : Nat} (le : exponent ≤ 308) :
    Nat.pow 10 exponent * unit / 1 + Nat.pow 10 exponent * unit / 1 / 2 ^ 52 + 1 <
      Binary64.overflow :=
  lt_overflow_of_le
    (Nat.div_le_div_right (Nat.mul_le_mul_right unit (Nat.pow_le_pow_right (by decide) le)))
    (by decide +kernel)

/-- A power of ten that is finite is at least one. -/
theorem unit_le_powerOfTen {exponent : Nat} (positive : 0 < exponent) (le : exponent ≤ 308) :
    unit ≤ powerOfTen exponent := by
  obtain ⟨units, rounds, near⟩ := Binary64.exists_roundUnits (power_lt_overflow le)
  have same : powerOfTen exponent = units := by
    have places : ¬ ((Nat.log2 1 : Int) / 4 + exponent > 400) := by
      have none : Nat.log2 1 = 0 := by decide
      omega
    simp only [powerOfTen, Binary64.decimalUnits, if_neg Nat.one_ne_zero, if_neg places]
    rw [if_neg (by omega), if_neg (by omega), Nat.one_mul]
    exact congrArg (Option.getD · 0) rounds
  have ten : 10 * unit ≤ Nat.pow 10 exponent * unit :=
    Nat.mul_le_mul_right unit (Nat.le_self_pow (Nat.ne_of_gt positive) 10)
  rw [Nat.div_one] at near
  rw [same]
  omega

theorem great_of_scale {kept exponent units : Nat} (small : kept ≤ greatestWord)
    (great : 4 * UInt32.size ≤ kept) (positive : 0 < exponent)
    (scaled : scale ((roundUnits kept 1).getD 0) exponent = some units) :
    UInt32.size * unit ≤ units := by
  have limit : greatestWord * unit / 1 + greatestWord * unit / 1 / 2 ^ 52 + 1 <
      Binary64.overflow := by
    decide +kernel
  have bound := Nat.div_le_div_right (c := 1) (Nat.mul_le_mul_right unit small)
  obtain ⟨whole, rounds, near⟩ := Binary64.exists_roundUnits (lt_overflow_of_le bound limit)
  rw [Nat.div_one] at near
  have lower := Nat.mul_le_mul_right unit great
  have some : 0 < whole := by
    have := unit_pos
    rw [Nat.mul_assoc, UInt32.size] at lower
    omega
  rw [rounds, Option.getD_some, scale, if_pos (Int.natCast_nonneg exponent)] at scaled
  split at scaled
  next le =>
    -- the product with the power is at least as great as the number itself
    have power := unit_le_powerOfTen positive (Int.ofNat_le.mp le)
    have product := Binary64.le_two_mul_of_roundUnits scaled
    rw [Nat.mul_div_mul_right _ _ unit_pos, Int.natAbs_natCast] at product
    have grown : whole ≤ whole * powerOfTen exponent / unit :=
      (Nat.le_div_iff_mul_le unit_pos).mpr (Nat.mul_le_mul_left whole power)
    rw [Nat.mul_assoc] at lower
    omega
  next =>
    split at scaled
    next none => omega
    next => cases scaled

end Numeral

/-! ## Integers -/

/-- How an integer is held as a number: as it is, or as a floating point number that is negative or
beyond all 64 bits, just as the integer is. -/
inductive Number.Stands (n : Int) : Number → Prop where
  | integer (most : n ≤ Numeral.greatestWord) : Stands n (.integer n)
  | negative {units : Nat} (nonpositive : n ≤ 0) : Stands n (.real (.finite true units))
  | great {units : Nat} (beyond : Numeral.greatestWord < n)
      (great : UInt32.size * Binary64.unit ≤ units) : Stands n (.real (.finite false units))

def signed (negative : Bool) (digits : List Char) : Int :=
  if negative then -(Nat.ofDigitChars 10 digits 0 : Int) else Nat.ofDigitChars 10 digits 0

theorem Numeral.exists_units_of_real {negative : Bool} {value : Nat} {exponent : Int}
    {number : Number} (accepted : real negative value exponent = .ok number) :
    ∃ units, scale ((Binary64.roundUnits value 1).getD 0) exponent = some units ∧
      number = .real (.finite negative units) := by
  unfold real at accepted
  split at accepted
  next units scaled => exact ⟨units, scaled, (Except.ok.inj accepted).symm⟩
  next => cases accepted

/-- Where not all digits are taken up, the numeral stands for a floating point number. -/
theorem Numeral.value_of_dropped {negative : Bool} {digits dropped : List Char} {kept : Nat}
    {c : Char} (absorbed : absorb 0 digits = (kept, c :: dropped)) :
    (⟨digits, [], none⟩ : Numeral).value negative =
      real negative kept ((dropped.length + 1 : Nat) : Int) := by
  simp [value, absorbed]

theorem Numeral.value_toDigits {n : Nat} (small : n ≤ greatestWord) :
    (⟨Nat.toDigits 10 n, [], none⟩ : Numeral).value false = .ok (.integer n) := by
  have all : ∀ c, c ∈ Nat.toDigits 10 n → c.isDigit :=
    fun c => Nat.isDigit_of_mem_toDigits (by decide) (by decide)
  have spelled : Nat.ofDigitChars 10 (Nat.toDigits 10 n) 0 = n := Nat.ofDigitChars_ten_toDigits
  rcases absorb_spec all (Nat.zero_le greatestWord) with
    ⟨absorbed, _⟩ | ⟨_, _, _, _, _, _, beyond⟩
  · simp [value, absorbed, spelled]
  · exact absurd small (Nat.not_le.mpr (spelled ▸ beyond))

theorem Number.stands_of_value {negative : Bool} {digits : List Char} {number : Number}
    (all : ∀ c, c ∈ digits → c.isDigit)
    (accepted : (⟨digits, [], none⟩ : Numeral).value negative = .ok number) :
    number.Stands (signed negative digits) := by
  have spec := Numeral.absorb_spec all (Nat.zero_le Numeral.greatestWord)
  have nonpositive : signed true digits ≤ 0 := by
    simp only [signed, if_true]
    omega
  rcases spec with ⟨absorbed, most⟩ | ⟨kept, c, dropped, absorbed, small, close, beyond⟩
  · rw [Numeral.value, absorbed] at accepted
    cases negative with
    | false =>
      cases accepted
      exact .integer (Int.ofNat_le.mpr most)
    | true =>
      simp only [List.isEmpty_nil, Option.isNone_none, Bool.and_self, if_true, Bool.not_true,
        Bool.false_eq_true, if_false] at accepted
      split at accepted
      next =>
        obtain ⟨units, _, rfl⟩ := Numeral.exists_units_of_real accepted
        exact .negative nonpositive
      next =>
        cases accepted
        exact .integer (Int.le_trans nonpositive (by decide))
  · rw [Numeral.value_of_dropped absorbed] at accepted
    obtain ⟨units, scaled, rfl⟩ := Numeral.exists_units_of_real accepted
    cases negative with
    | true => exact .negative nonpositive
    | false =>
      have size : 4 * UInt32.size ≤ kept := by
        rw [Numeral.greatestWord] at close
        rw [UInt32.size]
        omega
      exact .great (Int.ofNat_lt.mpr beyond)
        (Numeral.great_of_scale small size (Nat.succ_pos _) scaled)

/-! ## Literals -/

def literal : Bool → List Char → List Char
  | true, digits => '-' :: digits
  | false, digits => digits

variable {digits text more rest : List Char}

theorem exists_front_of_fractionPart {fraction : List Char}
    (part : FractionPart fraction text rest) :
    ∃ front, text = front ++ rest ∧
      (front = [] ∧ fraction = [] ∨ ∃ c, c ∈ front ∧ c.isDigit = false) := by
  cases part with
  | absent => exact ⟨[], rfl, .inl ⟨rfl, rfl⟩⟩
  | present => exact ⟨_, rfl, .inr ⟨'.', List.mem_cons_self, rfl⟩⟩

theorem exists_front_of_exponentPart {exponent : Option Int}
    (part : ExponentPart exponent text rest) :
    ∃ front, text = front ++ rest ∧
      (front = [] ∧ exponent = none ∨ ∃ c, c ∈ front ∧ c.isDigit = false) := by
  cases part with
  | absent => exact ⟨[], rfl, .inl ⟨rfl, rfl⟩⟩
  | @present mark negative behind digits _ marked sign =>
    have plain : mark.isDigit = false := by rcases marked with rfl | rfl <;> rfl
    have front : ∃ front, behind = front ++ rest := by
      cases sign with
      | absent => exact ⟨digits, rfl⟩
      | plus => exact ⟨'+' :: digits, rfl⟩
      | minus => exact ⟨'-' :: digits, rfl⟩
    obtain ⟨front, rfl⟩ := front
    exact ⟨mark :: front, rfl, .inr ⟨mark, List.mem_cons_self, plain⟩⟩

/-- A numeral whose written form is made of digits only has no other parts. -/
theorem numeral_eq_of_written {numeral : Numeral} (all : ∀ c, c ∈ digits → c.isDigit)
    (written : WrittenNumeral numeral (digits ++ rest) rest) : numeral = ⟨digits, [], none⟩ := by
  generalize whole : digits ++ rest = text at written
  cases written with
  | parts _ fraction exponent =>
    obtain ⟨point, rfl, pointed⟩ := exists_front_of_fractionPart fraction
    obtain ⟨mark, rfl, marked⟩ := exists_front_of_exponentPart exponent
    rw [← List.append_assoc, ← List.append_assoc] at whole
    have parts := List.append_cancel_right whole
    subst parts
    have digit : ∀ c, c ∈ point ∨ c ∈ mark → c.isDigit := by
      intro c member
      rcases member with member | member <;> exact all c (by simp [member])
    rcases pointed with ⟨rfl, noFraction⟩ | ⟨c, member, plain⟩
    · rcases marked with ⟨rfl, noExponent⟩ | ⟨c, member, plain⟩
      · rw [List.append_nil, List.append_nil, ← noFraction, ← noExponent]
      · exact absurd (digit c (.inr member)) (by simp [plain])
    · exact absurd (digit c (.inl member)) (by simp [plain])

theorem value_of_readNumber {negative : Bool} {number : Number} (valid : Digits digits)
    (read : readNumber negative (digits ++ rest) = .ok (number, rest)) :
    (⟨digits, [], none⟩ : Numeral).value negative = .ok number := by
  unfold readNumber at read
  split at read
  next => cases read
  next found =>
    split at read
    next => cases read
    next accepted =>
      cases read
      rw [← numeral_eq_of_written valid.2 (writtenNumeral_of_readNumeral found)]
      exact accepted

end GatewaySim.Json
