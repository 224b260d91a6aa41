import GatewaySim.Number.Binary64
import Mathlib.Tactic.Linarith
import Mathlib.Tactic.Positivity

/-! # How far rounding goes

A rounded number is close to the exact one: its distance is at most one unit, or one part in 2^52
(`exists_roundUnits_eq`). What is known of exact products therefore carries over to rounded ones, up
to a factor of two.
-/

namespace GatewaySim

theorem div_le_roundQuotient (numerator denominator : Nat) :
    numerator / denominator ≤ roundQuotient numerator denominator := by
  unfold roundQuotient
  dsimp only
  split
  · exact Nat.le_refl _
  · split
    · exact Nat.le_succ _
    · split
      · exact Nat.le_refl _
      · exact Nat.le_succ _

theorem roundQuotient_le (numerator denominator : Nat) :
    roundQuotient numerator denominator ≤ numerator / denominator + 1 := by
  unfold roundQuotient
  dsimp only
  split
  · exact Nat.le_succ _
  · split
    · exact Nat.le_refl _
    · split
      · exact Nat.le_succ _
      · exact Nat.le_refl _

namespace Binary64

theorem unit_pos : 0 < unit := by decide +kernel

/-- The numbers around a given one lie at a distance of one unit, or of at most one part in 2^52. -/
theorem step_le (units : Nat) :
    2 ^ spareBits units = 1 ∨ 2 ^ spareBits units ≤ units / 2 ^ 52 := by
  rcases Nat.lt_or_ge units.log2 53 with short | long
  · have none : spareBits units = 0 := by unfold spareBits; omega
    exact .inl (by rw [none, Nat.pow_zero])
  · right
    have some : units ≠ 0 := by
      rintro rfl
      simp at long
    have bits : spareBits units + 52 = units.log2 := by unfold spareBits; omega
    rw [Nat.le_div_iff_mul_le (by decide), ← Nat.pow_add, bits]
    exact Nat.log2_self_le some

/-- What a quotient is rounded to before it is checked for being finite, and how far that is from
the exact quotient. -/
theorem exists_roundUnits_eq (numerator denominator : Nat) :
    ∃ rounded,
      roundUnits numerator denominator = (if rounded < overflow then some rounded else none) ∧
      numerator * unit / denominator ≤ rounded + numerator * unit / denominator / 2 ^ 52 ∧
      rounded ≤ numerator * unit / denominator + numerator * unit / denominator / 2 ^ 52 + 1 := by
  let units := numerator * unit / denominator
  let step := Nat.pow 2 (spareBits units)
  refine ⟨roundQuotient (numerator * unit) (denominator * step) * step, rfl, ?_⟩
  have positive : 0 < step := Nat.two_pow_pos (spareBits units)
  have narrow : step = 1 ∨ step ≤ units / 2 ^ 52 := step_le units
  -- rounding starts from the whole steps in the exact quotient
  have steps : numerator * unit / (denominator * step) = units / step := by
    rw [← Nat.div_div_eq_div_mul]
  show units ≤ _ + units / 2 ^ 52 ∧ _ ≤ units + units / 2 ^ 52 + 1
  have below := Nat.mul_le_mul_right step
    (div_le_roundQuotient (numerator * unit) (denominator * step))
  have above := Nat.mul_le_mul_right step
    (roundQuotient_le (numerator * unit) (denominator * step))
  rw [steps] at below above
  have remainder := Nat.mod_lt units positive
  have whole := Nat.div_add_mod' units step
  rw [Nat.add_mul, Nat.one_mul] at above
  clear_value step units
  rcases narrow with rfl | narrow
  · omega
  · omega

/-- A quotient that is finite when it is rounded is at most twice what it is rounded to. -/
theorem le_two_mul_of_roundUnits {numerator denominator units : Nat}
    (rounds : roundUnits numerator denominator = some units) :
    numerator * unit / denominator ≤ 2 * units := by
  obtain ⟨rounded, same, below, _⟩ := exists_roundUnits_eq numerator denominator
  rw [same] at rounds
  split at rounds
  · cases rounds
    omega
  · cases rounds

/-- A quotient that stays clear of the greatest numbers is finite when it is rounded. -/
theorem exists_roundUnits {numerator denominator : Nat}
    (small : numerator * unit / denominator + numerator * unit / denominator / 2 ^ 52 + 1 <
      overflow) :
    ∃ units, roundUnits numerator denominator = some units ∧
      numerator * unit / denominator ≤ 2 * units := by
  obtain ⟨rounded, same, _, above⟩ := exists_roundUnits_eq numerator denominator
  rw [if_pos (Nat.lt_of_le_of_lt above small)] at same
  exact ⟨rounded, same, le_two_mul_of_roundUnits same⟩

end Binary64

/-! ## Nearest integers -/

theorem Signed64.le_greatest_of_fits {n : Int} (fits : Signed64.fits n) : n ≤ greatest := by
  rw [Signed64.fits, Bool.and_eq_true, decide_eq_true_eq, decide_eq_true_eq] at fits
  exact fits.2

namespace Binary64

theorem toInteger_negative_le (units : Nat) : (finite true units).toInteger ≤ 0 := by
  have rounded : 0 ≤ (2 * units + unit : Int) / (2 * unit) := by positivity
  have least : Signed64.least ≤ 0 := by decide
  rw [toInteger, if_pos rfl]
  omega

/-- A number that is at least as great as an integer of 64 bits stays so when it is made one. -/
theorem le_toInteger_of_le {bound : Nat} (fits : Signed64.fits bound) {units : Nat}
    (great : bound * unit ≤ units) : (bound : Int) ≤ (finite false units).toInteger := by
  have rounded : (bound : Int) ≤ (2 * units + unit) / (2 * unit) := by
    rw [Int.le_ediv_iff_mul_le (by have := unit_pos; omega)]
    have scaled : (bound * unit : Int) ≤ units := by exact_mod_cast great
    linarith
  rw [toInteger, if_neg Bool.false_ne_true]
  exact le_min (Signed64.le_greatest_of_fits fits) rounded

end Binary64

end GatewaySim
