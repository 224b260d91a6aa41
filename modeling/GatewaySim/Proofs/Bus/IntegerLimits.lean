import GatewaySim.Proofs.Bus.Configured
import GatewaySim.Proofs.Config.Integers
import Mathlib

/-! # Hop limits from integers

An integer that is configured as the hop limit passes through the representation of its source: 64
bits with a sign in TOML, and in JSON 64 bits with a sign, 64 bits without one, or a floating point
number. The bus takes the integer, held within the limits of its type, unless it is one that needs
all 64 bits without a sign: such an integer is no answer to the bus's question, which then falls
back on the default (`hopLimit_of_integer`).
-/

namespace GatewaySim

namespace Bus

def clamped (n : Int) : Int := max 0 (min n (UInt32.size - 1))

theorem clamped_mono : Monotone clamped :=
  fun _ _ le => max_le_max_left 0 (min_le_min_right _ le)

theorem clamped_of_nonpositive {n : Int} (nonpositive : n ≤ 0) : clamped n = 0 :=
  max_eq_left ((min_le_left _ _).trans nonpositive)

theorem clamped_of_great {n : Int} (great : (UInt32.size : Int) ≤ n) :
    clamped n = UInt32.size - 1 := by
  rw [clamped, min_eq_right (by omega)]
  rfl

theorem toNat_hopLimitOf_eq (wanted : Int) :
    ((hopLimitOf wanted).toNat : Int) = clamped wanted := by
  have size : UInt32.size = 4294967296 := rfl
  rw [hopLimitOf, UInt32.toNat_ofNat', clamped]
  omega

end Bus

namespace Config

open Json (Number)

variable {origin : Option Origin} {value : Value}

def CarriesLimit (config : Config) (n : Int) : Prop :=
  ∃ value, config.value? ⟨"hop-limit", []⟩ = some value ∧ Carries n value

/-! ## What becomes of an integer -/

/-- Whether an integer of 64 bits needs them all without a sign. -/
def OnlyUnsigned (n : Int) : Prop := Signed64.greatest < n ∧ n ≤ Json.Numeral.greatestWord

instance (n : Int) : Decidable (OnlyUnsigned n) := inferInstanceAs (Decidable (_ ∧ _))

theorem toInteger_of_stands {n : Int} {number : Number} (stands : number.Stands n) :
    (OnlyUnsigned n ∧
      ∃ mismatch,
        (Value.scalar origin (JsonSource.scalarOf number)).toInteger = .error mismatch) ∨
    (¬ OnlyUnsigned n ∧
      ∃ wanted,
        (Value.scalar origin (JsonSource.scalarOf number)).toInteger = .ok wanted ∧
          Bus.clamped wanted = Bus.clamped n) := by
  cases stands with
  | integer most =>
    rw [JsonSource.scalarOf, Value.toInteger]
    split
    next signed =>
      exact .inr ⟨fun unsigned => Int.not_lt.mpr signed unsigned.1, n, rfl, rfl⟩
    next unsigned => exact .inl ⟨⟨Int.not_le.mp unsigned, most⟩, _, rfl⟩
  | @negative units nonpositive =>
    have least := Binary64.toInteger_negative_le units
    refine .inr ⟨fun unsigned => ?_, _, rfl, ?_⟩
    · exact absurd unsigned.1 (Int.not_lt.mpr (Int.le_trans nonpositive (by decide)))
    · rw [Bus.clamped_of_nonpositive least, Bus.clamped_of_nonpositive nonpositive]
  | @great units beyond great =>
    have bound : (UInt32.size : Int) ≤ (Binary64.finite false units).toInteger :=
      Binary64.le_toInteger_of_le (by decide) great
    have size : (UInt32.size : Int) ≤ Json.Numeral.greatestWord := by decide
    refine .inr ⟨fun unsigned => Int.not_lt.mpr unsigned.2 beyond, _, rfl, ?_⟩
    rw [Bus.clamped_of_great bound,
      Bus.clamped_of_great (Int.le_trans size (Int.le_of_lt beyond))]

/-- An integer that a source has is given to whoever asks for one, or an integer that is as good as
a hop limit; but one that needs all 64 bits without a sign is refused. -/
theorem toInteger_of_carries {n : Int} (carries : Carries n value) :
    (OnlyUnsigned n ∧ ∃ mismatch, value.toInteger = .error mismatch) ∨
    (¬ OnlyUnsigned n ∧
      ∃ wanted, value.toInteger = .ok wanted ∧ Bus.clamped wanted = Bus.clamped n) := by
  cases carries with
  | toml read =>
    have fits := fits_of_toml read
    have most := Signed64.le_greatest_of_fits fits
    exact .inr ⟨fun unsigned => Int.not_lt.mpr most unsigned.1, n, toInteger_of_fits fits, rfl⟩
  | json valid read whole =>
    obtain ⟨number, rfl, stands⟩ := JsonSource.exists_number_of_literal valid read whole
    exact toInteger_of_stands stands

/-! ## The hop limit -/

theorem toNat_hopLimit_of_carriesLimit {config : Config} {n : Int}
    (configured : config.CarriesLimit n) :
    ((Bus.ofConfig config).hopLimit.toNat : Int) =
      if OnlyUnsigned n then Bus.defaultHopLimit else Bus.clamped n := by
  obtain ⟨value, found, carries⟩ := configured
  have asked := get_of_value? (by decide) found Value.toInteger
  rcases toInteger_of_carries carries with
    ⟨unsigned, mismatch, refused⟩ | ⟨regular, wanted, given, same⟩
  · rw [refused] at asked
    rw [if_pos unsigned, Bus.hopLimit_ofConfig_error asked]
    exact Bus.toNat_hopLimitOf (by decide) (by decide)
  · rw [given] at asked
    rw [if_neg regular, Bus.hopLimit_ofConfig_ok asked, Bus.toNat_hopLimitOf_eq, same]

/-- A bus that is configured with an integer takes it as its hop limit, held within the limits of
the type; but an integer that needs all 64 bits without a sign leaves it with the default. So a
greater integer never makes a lower limit, unless it is such a one. -/
theorem hopLimit_of_integer {config other : Config} {n m : Int} (configured : config.CarriesLimit n)
    (configuredToo : other.CarriesLimit m) :
    ((Bus.ofConfig config).hopLimit.toNat : Int) =
        (if OnlyUnsigned n then Bus.defaultHopLimit else Bus.clamped n) ∧
      (n ≤ m → ¬ OnlyUnsigned m →
        (Bus.ofConfig config).hopLimit ≤ (Bus.ofConfig other).hopLimit) := by
  have low := toNat_hopLimit_of_carriesLimit configured
  have high := toNat_hopLimit_of_carriesLimit configuredToo
  refine ⟨low, fun le regular => ?_⟩
  rw [UInt32.le_iff_toNat_le, ← Int.ofNat_le, low, high, if_neg regular]
  split
  next unsigned =>
    -- what is greater than such an integer is held at the greatest limit
    rw [Bus.clamped_of_great (Int.le_trans (by decide) (Int.le_trans (Int.le_of_lt unsigned.1) le))]
    decide
  next => exact Bus.clamped_mono le

def configOfLimit (content : Scalar) : Config := only "hop-limit" none content

/-- What comes of a JSON text with an integer as the hop limit and nothing else. -/
theorem carriesLimit_configOfLimit {n : Nat} {number : Number}
    (accepted : (⟨Nat.toDigits 10 n, [], none⟩ : Json.Numeral).value false = .ok number) :
    ofSources [.json none (saying "hop-limit" n)] =
        .ok (configOfLimit (JsonSource.scalarOf number)) ∧
      (configOfLimit (JsonSource.scalarOf number)).CarriesLimit n := by
  have carries := carries_of_value none (Json.wholePart_toDigits n) accepted
  rw [signed_toDigits] at carries
  exact ⟨ofSources_saying (by decide) none accepted, _, rfl, carries⟩

theorem value_beyond : (⟨Nat.toDigits 10 (10 ^ 20), [], none⟩ : Json.Numeral).value false =
    .ok (.real (.finite false (Nat.pow 10 20 * Binary64.unit))) := by
  have absorbed : Json.Numeral.absorb 0 (Nat.toDigits 10 (10 ^ 20)) =
      (10000000000000000000, ['0']) := by
    decide +kernel
  have scaled : Json.Numeral.scale ((Binary64.roundUnits 10000000000000000000 1).getD 0) 1 =
      some (Nat.pow 10 20 * Binary64.unit) := by
    rw [Json.Numeral.scale]
    decide +kernel
  rw [Json.Numeral.value_of_dropped absorbed, Json.Numeral.real]
  simp only [List.length_nil, Nat.zero_add, Nat.cast_one, scaled]

/-- A small hop limit, and one beyond 64 bits that is held as a floating point number. -/
theorem hopLimit_of_integer_great :
    let small := configOfLimit (.integer 3)
    let great := configOfLimit (.real (.finite false (Nat.pow 10 20 * Binary64.unit)))
    ofSources [.json none (saying "hop-limit" 3)] = .ok small ∧ small.CarriesLimit 3 ∧
      ofSources [.json none (saying "hop-limit" (10 ^ 20))] = .ok great ∧
      great.CarriesLimit (10 ^ 20 : Nat) ∧
      ((Bus.ofConfig small).hopLimit.toNat : Int) = 3 ∧
      ((Bus.ofConfig great).hopLimit.toNat : Int) = 4294967295 ∧
      (Bus.ofConfig small).hopLimit ≤ (Bus.ofConfig great).hopLimit := by
  intro small great
  obtain ⟨readSmall, three⟩ := carriesLimit_configOfLimit (Json.Numeral.value_toDigits
    (show 3 ≤ Json.Numeral.greatestWord by decide))
  obtain ⟨readGreat, beyond⟩ := carriesLimit_configOfLimit value_beyond
  have ⟨low, grows⟩ := hopLimit_of_integer three beyond
  exact ⟨readSmall, three, readGreat, beyond, low, (hopLimit_of_integer beyond three).1,
    grows (by decide) (by decide)⟩

/-- One more than the greatest integer of 64 bits with a sign is not held at the greatest limit but
dropped, and makes a lower limit than that integer does. -/
theorem hopLimit_drops_unsigned :
    let less := configOfLimit (.integer 9223372036854775807)
    let more := configOfLimit (.integer 9223372036854775808)
    ofSources [.json none (saying "hop-limit" 9223372036854775807)] = .ok less ∧
      less.CarriesLimit 9223372036854775807 ∧ (Bus.ofConfig less).hopLimit = 4294967295 ∧
      ofSources [.json none (saying "hop-limit" 9223372036854775808)] = .ok more ∧
      more.CarriesLimit 9223372036854775808 ∧ (Bus.ofConfig more).hopLimit = 16 ∧
      ¬ (∀ (config : Config) (n : Int), config.CarriesLimit n →
        ((Bus.ofConfig config).hopLimit.toNat : Int) = Bus.clamped n) ∧
      ¬ (∀ (config other : Config) (n m : Int), config.CarriesLimit n →
        other.CarriesLimit m → n ≤ m →
          (Bus.ofConfig config).hopLimit ≤ (Bus.ofConfig other).hopLimit) := by
  intro less more
  obtain ⟨readLess, carriesLess⟩ := carriesLimit_configOfLimit (Json.Numeral.value_toDigits
    (show 9223372036854775807 ≤ Json.Numeral.greatestWord by decide))
  obtain ⟨readMore, carriesMore⟩ := carriesLimit_configOfLimit (Json.Numeral.value_toDigits
    (show 9223372036854775808 ≤ Json.Numeral.greatestWord by decide))
  have limitLess : (Bus.ofConfig less).hopLimit = 4294967295 := by cbv
  have limitMore : (Bus.ofConfig more).hopLimit = 16 := by cbv
  refine ⟨readLess, carriesLess, limitLess, readMore, carriesMore, limitMore, ?_, ?_⟩
  · intro always
    have limit := always more _ carriesMore
    rw [limitMore] at limit
    exact absurd limit (by decide)
  · intro always
    have limit := always less more _ _ carriesLess carriesMore (by decide)
    rw [limitLess, limitMore] at limit
    exact absurd limit (by decide)

end Config

end GatewaySim
