import ExchangeWallet.Proofs.Binary64.Rounding
/-!
# Bounds through rounding

A number that is nearest to a value is not below any power of two that the value is not below,
and is not above twice the value. So a product that has been rounded several times on the way is
still as large as a power of two, and is still represented, if the exact product is so by a wide
margin. This is all that is needed of numbers that are too large for a machine word.
-/
namespace ExchangeWallet.Binary64

attribute [local irreducible] unitsPerOne

/-- A number is at least a power of two. -/
def Reaches (number : Binary64) (power : Nat) : Prop :=
  2 ^ power * unitsPerOne ≤ number.units

section Nearest

variable {negative : Bool} {numerator denominator power : Nat} {number : Binary64}

/-- A number whose significand is shifted is at least the power of two of its 53rd bit. -/
theorem power_le_units (shifted : number.shift ≠ 0) :
    2 ^ (52 + number.shift) ≤ number.units := by
  rw [units, Nat.pow_add]
  exact Nat.mul_le_mul_right _ (number.normal.resolve_left shifted)

/-- Rounding does not go below a power of two. -/
theorem nearest_reaches (positive : 0 < denominator)
    (large : 2 ^ power * denominator ≤ numerator)
    (found : nearest negative numerator denominator = some number) : number.Reaches power := by
  obtain ⟨bits, same⟩ : ∃ bits, bits = 1074 := ⟨_, rfl⟩
  have quanta : 2 ^ (power + bits) ≤ numerator * unitsPerOne / denominator := by
    rw [Nat.le_div_iff_mul_le positive]
    calc 2 ^ (power + bits) * denominator
        = 2 ^ power * denominator * unitsPerOne := by
          rw [unitsPerOne_eq same, Nat.pow_add, Nat.mul_right_comm]
      _ ≤ numerator * unitsPerOne := Nat.mul_le_mul_right _ large
  have nonzero : numerator * unitsPerOne / denominator ≠ 0 :=
    (Nat.lt_of_lt_of_le (Nat.two_pow_pos _) quanta).ne'
  have length := (Nat.le_log2 nonzero).mpr quanta
  have shift : power + bits ≤ 52 + number.shift := by
    rcases (nearest_cases found).2 with ⟨_, shift⟩ | ⟨_, _, shift⟩
    · rw [shift, shiftFor]
      omega
    · rw [shift, shiftFor]
      omega
  calc 2 ^ power * unitsPerOne = 2 ^ (power + bits) := by
        rw [unitsPerOne_eq same, Nat.pow_add]
    _ ≤ 2 ^ (52 + number.shift) := Nat.pow_le_pow_right (by decide) shift
    _ ≤ number.units := power_le_units (by omega)

/-- A number is not above twice what it covers: what it covers below itself is at most half of
one unit of its significand. -/
theorem Covers.magnitude_le {value : ℚ} (covers : number.Covers value) (nonneg : 0 ≤ value) :
    number.magnitude ≤ 2 * value := by
  have one := quanta_pos
  rw [magnitude, div_le_iff₀ one]
  by_cases zero : number.significand = 0
  · rw [units, zero, Nat.zero_mul, Nat.cast_zero]
    positivity
  · have least := covers.between.1
    rw [Binary64.least, div_le_iff₀ (by positivity)] at least
    have unit : (2 : ℚ) ^ number.shift ≤ number.units := by
      rw [units]
      exact_mod_cast Nat.le_mul_of_pos_left _ (Nat.pos_of_ne_zero zero)
    have halves : (number.halvesBelow : ℚ) ≤ 2 := by
      rw [halvesBelow]
      split <;> norm_num
    have below : (number.halvesBelow : ℚ) * 2 ^ number.shift ≤ 2 * number.units :=
      mul_le_mul halves unit (by positivity) (by norm_num)
    linarith

/-- Rounding does not go above twice the value. -/
theorem nearest_units_le (positive : 0 < denominator)
    (found : nearest negative numerator denominator = some number) :
    number.units * denominator ≤ 2 * numerator * unitsPerOne := by
  have bound := (nearest_covers positive found).magnitude_le (by positivity)
  rw [magnitude, ← mul_div_assoc, div_le_div_iff₀ quanta_pos (Nat.cast_pos.mpr positive)] at bound
  exact_mod_cast bound

end Nearest

section Scaled

variable {start factor number : Binary64} {negative : Bool} {significand power first second : Nat}

/-- A product reaches the power of two that its factors reach together. -/
theorem mul?_reaches (starts : start.Reaches first) (grows : factor.Reaches second)
    (found : start.mul? factor = some number) : number.Reaches (first + second) := by
  apply nearest_reaches (Nat.mul_pos unitsPerOne_pos unitsPerOne_pos) _ found
  rw [Nat.pow_add, Nat.mul_mul_mul_comm]
  exact Nat.mul_le_mul starts grows

/-- A significand is scaled by a power of ten in two steps, the number nearest to it first. -/
theorem scaled?_power (negative : Bool) (significand power : Nat) :
    scaled? negative significand (power : Int) =
      ((ofNat? significand).bind fun start => start.mulPowerOfTen? power).map
        (withSign negative) := by
  rw [scaled?, Option.bind_eq_bind]
  cases ofNat? significand with
  | none => rfl
  | some start =>
    change (start.mulPowerOfTen? power >>= fun magnitude => pure (magnitude.withSign negative)) =
      (start.mulPowerOfTen? power).map (withSign negative)
    cases start.mulPowerOfTen? power <;> rfl

/-- What has been scaled has its sign, and reaches the power of two that its significand and the
power of ten reach together. -/
theorem scaled?_reaches (starts : 2 ^ first ≤ significand) (grows : 2 ^ second ≤ 10 ^ power)
    (found : scaled? negative significand (power : Int) = some number) :
    number.negative = negative ∧ number.Reaches (first + second) := by
  rw [scaled?_power, Option.map_eq_some_iff] at found
  obtain ⟨product, made, rfl⟩ := found
  obtain ⟨start, started, scaled⟩ := Option.bind_eq_some_iff.mp made
  have reached : start.Reaches first :=
    nearest_reaches Nat.one_pos (by rwa [Nat.mul_one]) started
  refine ⟨rfl, show product.Reaches _ from ?_⟩
  rw [mulPowerOfTen?] at scaled
  split at scaled
  · obtain ⟨factor, powered, found⟩ := Option.bind_eq_some_iff.mp scaled
    exact mul?_reaches reached (nearest_reaches Nat.one_pos (by rwa [Nat.mul_one]) powered) found
  · split at scaled
    · next none =>
      rw [Reaches, none, Nat.le_zero] at reached
      exact absurd reached (Nat.mul_pos (Nat.two_pow_pos _) unitsPerOne_pos).ne'
    · cases scaled

/-- A number of at most 307 digits in front of its point can be made of its significand and a
power of ten. -/
theorem exists_scaled (negative : Bool) (within : power ≤ 307)
    (small : significand * 10 ^ power < 10 ^ 307) :
    ∃ number, scaled? negative significand (power : Int) = some number := by
  have range : 10 ^ 307 < 2 ^ 1020 * 1 := by decide +kernel
  have tens : 10 ^ power ≤ 10 ^ 307 := pow_le_pow_right₀ (by decide) within
  have digits : significand ≤ significand * 10 ^ power :=
    Nat.le_mul_of_pos_right _ (Nat.pow_pos (by decide))
  obtain ⟨start, started⟩ := exists_nearest false (show 1020 ≤ 1023 by decide) Nat.one_pos
    ((digits.trans_lt small).trans range)
  obtain ⟨factor, powered⟩ := exists_nearest false (show 1020 ≤ 1023 by decide) Nat.one_pos
    (tens.trans_lt range)
  have startBound := nearest_units_le Nat.one_pos started
  have factorBound := nearest_units_le Nat.one_pos powered
  have bound : start.units * factor.units < 2 ^ 1022 * (unitsPerOne * unitsPerOne) := by
    have squares : 0 < unitsPerOne * unitsPerOne := Nat.mul_pos unitsPerOne_pos unitsPerOne_pos
    rw [Nat.mul_one] at startBound factorBound
    calc start.units * factor.units
        ≤ 2 * significand * unitsPerOne * (2 * 10 ^ power * unitsPerOne) :=
          Nat.mul_le_mul startBound factorBound
      _ = 4 * (significand * 10 ^ power) * (unitsPerOne * unitsPerOne) := by ring
      _ < 2 ^ 1022 * (unitsPerOne * unitsPerOne) := by
          apply Nat.mul_lt_mul_of_pos_right _ squares
          have quarter : 4 * 10 ^ 307 ≤ 2 ^ 1022 := by decide +kernel
          exact (Nat.mul_lt_mul_of_pos_left small (by decide)).trans_le quarter
  obtain ⟨product, found⟩ := exists_nearest (start.negative != factor.negative)
    (show 1022 ≤ 1023 by decide) (Nat.mul_pos unitsPerOne_pos unitsPerOne_pos) bound
  have multiplied : start.mul? factor = some product := found
  have made : ofNat? (10 ^ power) = some factor := powered
  have scaled : start.mulPowerOfTen? power = some product := by
    rw [mulPowerOfTen?, if_pos (within.trans (by decide)), made, Option.bind_eq_bind,
      Option.bind_some]
    exact multiplied
  refine ⟨product.withSign negative, ?_⟩
  rw [scaled?_power, ofNat?, started, Option.bind_some, scaled, Option.map_some]

end Scaled

/-- The integer part of a number that reaches a power of two does so too, on the side of its
sign. -/
theorem truncate_of_reaches {number : Binary64} {power : Nat} (reaches : number.Reaches power) :
    if number.negative then number.truncate ≤ -2 ^ power else 2 ^ power ≤ number.truncate := by
  have whole : 2 ^ power ≤ number.units / unitsPerOne :=
    (Nat.le_div_iff_mul_le unitsPerOne_pos).mpr reaches
  have cast : (2 : Int) ^ power ≤ (number.units / unitsPerOne : Nat) := by exact_mod_cast whole
  rw [truncate]
  split
  · exact neg_le_neg cast
  · exact cast

/-- A number without units has no integer part. -/
theorem truncate_of_zero {number : Binary64} (zero : number.units = 0) : number.truncate = 0 := by
  rw [truncate, zero, Nat.zero_div]
  cases number.negative <;> rfl

end ExchangeWallet.Binary64
