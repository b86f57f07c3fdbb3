import Mathlib
import ExchangeWallet.Binary64.Shortest
/-!
# Rounding to binary numbers

Every finite number covers an interval of rational numbers, those that are nearer to it than
to any other number; a value halfway between two numbers belongs to the one with the even
significand. Below a power of two the numbers lie twice as densely as above it, so that such
a number covers less below itself than above.

The number nearest to a quotient covers the quotient, whatever its size. A number with 53
significant bits is represented as it is.
-/
namespace ExchangeWallet.Binary64

/-- There are quanta in one. -/
theorem unitsPerOne_pos : 0 < unitsPerOne := by
  unfold unitsPerOne
  positivity

/-- The number of quanta is a power of two. -/
theorem unitsPerOne_eq {bits : Nat} (same : bits = 1074) : unitsPerOne = 2 ^ bits := by
  rw [unitsPerOne, ← same]

-- The power is large, and nothing below asks for more than its sign.
attribute [local irreducible] unitsPerOne

/-- The magnitude of a number. -/
def magnitude (number : Binary64) : ℚ :=
  number.units / unitsPerOne

/-- The gap below a number, in halves of the gap above. -/
def halvesBelow (number : Binary64) : Nat :=
  if number.hasNarrowGapBelow then 1 else 2

/-- The least value that a number can cover. -/
def least (number : Binary64) : ℚ :=
  (4 * number.units - number.halvesBelow * 2 ^ number.shift) / (4 * unitsPerOne)

/-- The greatest value that a number can cover. -/
def greatest (number : Binary64) : ℚ :=
  (4 * number.units + 2 * 2 ^ number.shift) / (4 * unitsPerOne)

/-- A value belongs to a number. The ends of its interval do so where the significand is
even. -/
def Covers (number : Binary64) (value : ℚ) : Prop :=
  if number.significand % 2 = 0 then number.least ≤ value ∧ value ≤ number.greatest
  else number.least < value ∧ value < number.greatest

/-- There are quanta in one, also as rational numbers. -/
theorem quanta_pos : (0 : ℚ) < unitsPerOne :=
  Nat.cast_pos.mpr unitsPerOne_pos

section Interval

variable {number : Binary64} {value first second : ℚ}

/-- A value that is covered lies between the ends. -/
theorem Covers.between (covers : number.Covers value) :
    number.least ≤ value ∧ value ≤ number.greatest := by
  unfold Covers at covers
  split at covers
  · exact covers
  · exact ⟨covers.1.le, covers.2.le⟩

/-- What lies between covered values is covered. -/
theorem Covers.convex (coversFirst : number.Covers first) (coversSecond : number.Covers second)
    (above : first ≤ value) (below : value ≤ second) : number.Covers value := by
  unfold Covers at *
  split at coversFirst
  · next even =>
    rw [if_pos even] at coversSecond ⊢
    exact ⟨coversFirst.1.trans above, below.trans coversSecond.2⟩
  · next odd =>
    rw [if_neg odd] at coversSecond ⊢
    exact ⟨coversFirst.1.trans_le above, below.trans_lt coversSecond.2⟩

/-- A number covers itself. -/
theorem covers_magnitude (number : Binary64) : number.Covers number.magnitude := by
  have positive := quanta_pos
  have gap : (0 : ℚ) < 2 ^ number.shift := by positivity
  have halves : (0 : ℚ) < number.halvesBelow := by
    rw [halvesBelow]
    split <;> norm_num
  have same : number.magnitude = 4 * number.units / (4 * unitsPerOne) := by
    rw [magnitude, mul_div_mul_left _ _ (by norm_num)]
  have below : number.least < number.magnitude := by
    rw [same, least]
    exact div_lt_div_of_pos_right (by nlinarith) (by positivity)
  have above : number.magnitude < number.greatest := by
    rw [same, greatest]
    exact div_lt_div_of_pos_right (by linarith) (by positivity)
  unfold Covers
  split
  · exact ⟨below.le, above.le⟩
  · exact ⟨below, above⟩

end Interval

section Quotient

variable (number : Binary64) (numerator : Nat) {denominator : Nat}

/-- Whether a quotient is covered is settled by whole numbers, all counted in quarters of
a quantum over the denominator. -/
theorem covers_quotient_iff (positive : 0 < denominator) :
    let quanta := numerator * unitsPerOne
    let gap := denominator * 2 ^ number.shift
    number.Covers (numerator / denominator) ↔
      if number.significand % 2 = 0 then
        4 * (number.significand * gap) ≤ 4 * quanta + number.halvesBelow * gap ∧
          4 * quanta ≤ 4 * (number.significand * gap) + 2 * gap
      else
        4 * (number.significand * gap) < 4 * quanta + number.halvesBelow * gap ∧
          4 * quanta < 4 * (number.significand * gap) + 2 * gap := by
  intro quanta gap
  have one : (0 : ℚ) < 4 * unitsPerOne := mul_pos (by norm_num) quanta_pos
  have denominatorPositive : (0 : ℚ) < denominator := Nat.cast_pos.mpr positive
  simp only [quanta, gap]
  unfold Covers least greatest units
  rw [div_le_div_iff₀ one denominatorPositive, div_le_div_iff₀ denominatorPositive one,
    div_lt_div_iff₀ one denominatorPositive, div_lt_div_iff₀ denominatorPositive one,
    ← @Nat.cast_le ℚ, ← @Nat.cast_le ℚ, ← @Nat.cast_lt ℚ, ← @Nat.cast_lt ℚ]
  push_cast
  split
  · constructor
    · rintro ⟨below, above⟩
      constructor <;> linarith
    · rintro ⟨below, above⟩
      constructor <;> linarith
  · constructor
    · rintro ⟨below, above⟩
      constructor <;> linarith
    · rintro ⟨below, above⟩
      constructor <;> linarith

end Quotient

section Nearest

/-- Rounding to an integer goes by half a step at most, and by just half a step to an even
integer only. -/
theorem roundHalfEven_bounds (numerator : Nat) {denominator : Nat} (positive : 0 < denominator) :
    let rounded := roundHalfEven numerator denominator
    2 * (rounded * denominator) ≤ 2 * numerator + denominator ∧
      2 * numerator ≤ 2 * (rounded * denominator) + denominator ∧
      (rounded % 2 ≠ 0 → 2 * (rounded * denominator) ≠ 2 * numerator + denominator ∧
        2 * numerator ≠ 2 * (rounded * denominator) + denominator) := by
  have parts := Nat.div_add_mod numerator denominator
  have small := Nat.mod_lt numerator positive
  rw [Nat.mul_comm] at parts
  have step : (numerator / denominator + 1) * denominator =
      numerator / denominator * denominator + denominator := Nat.succ_mul _ _
  intro rounded
  simp only [rounded, roundHalfEven]
  split
  · next down => omega
  · next up =>
    rw [step]
    omega

/-- A shift is chosen so that the shifted integer part has at most 53 bits. -/
theorem lt_of_shiftFor (quanta : Nat) : quanta < 2 ^ 53 * 2 ^ shiftFor quanta := by
  have below : quanta < 2 ^ (quanta.log2 + 1) := Nat.lt_log2_self
  have enough : quanta.log2 + 1 ≤ 53 + shiftFor quanta := by
    unfold shiftFor
    omega
  rw [← Nat.pow_add]
  exact below.trans_le (Nat.pow_le_pow_right (by decide) enough)

/-- A nearest number has the rounded significand, or else rounding has carried into one bit
more and the number is the power of two that it came to. -/
theorem nearest_cases {negative : Bool} {numerator denominator : Nat} {number : Binary64}
    (found : nearest negative numerator denominator = some number) :
    let quanta := numerator * unitsPerOne
    let shift := shiftFor (quanta / denominator)
    let rounded := roundHalfEven quanta (denominator * 2 ^ shift)
    number.negative = negative ∧
      (number.significand = rounded ∧ number.shift = shift ∨
        2 ^ 53 ≤ rounded ∧ number.significand = 2 ^ 52 ∧ number.shift = shift + 1) := by
  unfold nearest at found
  simp only at found
  split at found
  · split at found
    · obtain rfl := Option.some.inj found
      exact ⟨rfl, .inl ⟨rfl, rfl⟩⟩
    · cases found
  · next wide =>
    split at found
    · obtain rfl := Option.some.inj found
      exact ⟨rfl, .inr ⟨Nat.le_of_not_lt wide, rfl, rfl⟩⟩
    · cases found

/-- A number covers as much below itself as above, or it is a power of two and covers half
as much. -/
theorem halvesBelow_cases (number : Binary64) :
    number.halvesBelow = 2 ∨
      number.halvesBelow = 1 ∧ number.significand = 2 ^ 52 ∧ number.shift ≠ 0 := by
  unfold halvesBelow
  split
  · next narrow =>
    rw [hasNarrowGapBelow, decide_eq_true_eq] at narrow
    exact .inr ⟨rfl, narrow⟩
  · exact .inl rfl

/-- A number covers a quotient that was rounded to its significand. The narrow gap below a
power of two does not matter, for no quotient below the power is rounded up to it. -/
theorem covers_of_rounded {number : Binary64} {numerator denominator : Nat}
    (positive : 0 < denominator)
    (full : number.shift ≠ 0 →
      2 ^ 52 * (denominator * 2 ^ number.shift) ≤ numerator * unitsPerOne)
    (rounded : number.significand =
      roundHalfEven (numerator * unitsPerOne) (denominator * 2 ^ number.shift)) :
    number.Covers (numerator / denominator) := by
  have gapPositive : 0 < denominator * 2 ^ number.shift := Nat.mul_pos positive (Nat.two_pow_pos _)
  obtain ⟨below, above, tie⟩ := roundHalfEven_bounds (numerator * unitsPerOne) gapPositive
  rw [← rounded] at below above tie
  apply (covers_quotient_iff number numerator positive).mpr
  rcases number.halvesBelow_cases with halves | ⟨halves, power, narrow⟩
  · rw [halves]
    split <;> omega
  · have reached := full narrow
    rw [power] at below above ⊢
    rw [halves, if_pos (by decide)]
    omega

/-- The number nearest to a quotient covers it. Where rounding has carried, the quotient
lies in the narrow gap below a power of two. -/
theorem nearest_covers {negative : Bool} {numerator denominator : Nat} {number : Binary64}
    (positive : 0 < denominator) (found : nearest negative numerator denominator = some number) :
    number.Covers (numerator / denominator) := by
  have gapPositive : 0 < denominator *
      2 ^ shiftFor (numerator * unitsPerOne / denominator) :=
    Nat.mul_pos positive (Nat.two_pow_pos _)
  rcases (nearest_cases found).2 with ⟨significand, shifted⟩ | ⟨wide, significand, shifted⟩
  · refine covers_of_rounded positive ?_ (shifted ▸ significand)
    intro narrow
    have whole := shiftFor_full (numerator * unitsPerOne / denominator)
    rw [Nat.div_div_eq_div_mul, Nat.le_div_iff_mul_le gapPositive, ← shifted] at whole
    exact whole.resolve_left narrow
  · obtain ⟨below, _, _⟩ := roundHalfEven_bounds (numerator * unitsPerOne) gapPositive
    have bound : numerator * unitsPerOne < 2 ^ 53 *
        (denominator * 2 ^ shiftFor (numerator * unitsPerOne / denominator)) := by
      have small := lt_of_shiftFor (numerator * unitsPerOne / denominator)
      rw [Nat.div_lt_iff_lt_mul positive] at small
      calc numerator * unitsPerOne
          < 2 ^ 53 * 2 ^ shiftFor (numerator * unitsPerOne / denominator) * denominator := small
        _ = 2 ^ 53 * (denominator * 2 ^ shiftFor (numerator * unitsPerOne / denominator)) := by ring
    have carried := Nat.mul_le_mul_right
      (denominator * 2 ^ shiftFor (numerator * unitsPerOne / denominator)) wide
    have doubled : denominator * 2 ^ (shiftFor (numerator * unitsPerOne / denominator) + 1) =
        2 * (denominator * 2 ^ shiftFor (numerator * unitsPerOne / denominator)) := by ring
    apply (covers_quotient_iff number numerator positive).mpr
    rw [significand, shifted, if_pos (by decide), doubled]
    rcases number.halvesBelow_cases with halves | ⟨halves, _, _⟩ <;> rw [halves] <;> omega

/-- There is a nearest number to a quotient that is not too large. -/
theorem exists_nearest (negative : Bool) {numerator denominator range : Nat}
    (within : range ≤ 1023) (positive : 0 < denominator)
    (small : numerator < 2 ^ range * denominator) :
    ∃ number, nearest negative numerator denominator = some number := by
  obtain ⟨bits, same⟩ : ∃ bits, bits = 1074 := ⟨_, rfl⟩
  have quanta : numerator * unitsPerOne / denominator < 2 ^ (range + bits) := by
    rw [Nat.div_lt_iff_lt_mul positive]
    calc numerator * unitsPerOne < 2 ^ range * denominator * unitsPerOne :=
          Nat.mul_lt_mul_of_pos_right small unitsPerOne_pos
      _ = 2 ^ range * unitsPerOne * denominator := Nat.mul_right_comm _ _ _
      _ = 2 ^ (range + bits) * denominator := by rw [unitsPerOne_eq same, ← Nat.pow_add]
  have fits : shiftFor (numerator * unitsPerOne / denominator) + 1 ≤ 2045 := by
    unfold shiftFor
    rcases Nat.eq_zero_or_pos (numerator * unitsPerOne / denominator) with none | some
    · rw [none]
      decide
    · have bits := (Nat.log2_lt some.ne').mpr quanta
      omega
  unfold nearest
  simp only
  split
  · exact ⟨_, dif_pos (Nat.le_of_succ_le fits)⟩
  · exact ⟨_, rfl⟩

end Nearest

section Arithmetic

/-- An integer is rounded to itself. -/
theorem roundHalfEven_of_dvd {numerator denominator : Nat} (positive : 0 < denominator)
    (divides : denominator ∣ numerator) :
    roundHalfEven numerator denominator = numerator / denominator := by
  rw [roundHalfEven, Nat.mod_eq_zero_of_dvd divides]
  exact if_pos (.inl positive)

/-- A natural number with 53 significant bits is represented as it is. -/
theorem exists_ofNat {significant power : Nat} (bits53 : significant < 2 ^ 53)
    (small : power ≤ 100) :
    ∃ number, ofNat? (significant * 2 ^ power) = some number ∧ number.negative = false ∧
      number.units = significant * 2 ^ power * unitsPerOne := by
  obtain ⟨bits, same⟩ : ∃ bits, bits = 1074 := ⟨_, rfl⟩
  have quanta : significant * 2 ^ power * unitsPerOne = significant * 2 ^ (power + bits) := by
    rw [unitsPerOne_eq same, Nat.mul_assoc, ← Nat.pow_add]
  have small : significant * 2 ^ power < 2 ^ 200 * 1 := by
    calc significant * 2 ^ power < 2 ^ 53 * 2 ^ power :=
          Nat.mul_lt_mul_of_pos_right bits53 (Nat.two_pow_pos _)
      _ ≤ 2 ^ 200 * 1 := by
          rw [← Nat.pow_add, Nat.mul_one]
          exact Nat.pow_le_pow_right (by decide) (by omega)
  obtain ⟨number, found⟩ := exists_nearest false (by decide) Nat.one_pos small
  have shift_le : shiftFor (significant * 2 ^ power * unitsPerOne) ≤ power + bits := by
    unfold shiftFor
    rcases Nat.eq_zero_or_pos (significant * 2 ^ power * unitsPerOne) with none | some
    · rw [none]
      simp
    · have below : significant * 2 ^ power * unitsPerOne < 2 ^ (53 + (power + bits)) := by
        rw [quanta, Nat.pow_add _ 53]
        exact Nat.mul_lt_mul_of_pos_right bits53 (Nat.two_pow_pos _)
      have length := (Nat.log2_lt some.ne').mpr below
      omega
  have divides : 2 ^ shiftFor (significant * 2 ^ power * unitsPerOne) ∣
      significant * 2 ^ power * unitsPerOne := by
    rw [quanta] at shift_le ⊢
    exact (Nat.pow_dvd_pow 2 shift_le).mul_left significant
  have exact := roundHalfEven_of_dvd (Nat.two_pow_pos _) divides
  obtain ⟨sign, cases⟩ := nearest_cases found
  rw [Nat.div_one, Nat.one_mul, exact] at cases
  rcases cases with ⟨significand, shifted⟩ | ⟨wide, _, _⟩
  · refine ⟨number, found, sign, ?_⟩
    rw [units, significand, shifted, Nat.div_mul_cancel divides]
  · have narrow := lt_of_shiftFor (significant * 2 ^ power * unitsPerOne)
    rw [← Nat.div_lt_iff_lt_mul (Nat.two_pow_pos _)] at narrow
    exact absurd wide (Nat.not_le_of_lt narrow)

variable {left right number : Binary64}

/-- A rounded product covers the product. -/
theorem mul?_covers (found : left.mul? right = some number) :
    number.Covers (left.magnitude * right.magnitude) := by
  have covers := nearest_covers (Nat.mul_pos unitsPerOne_pos unitsPerOne_pos) found
  rw [magnitude, magnitude, div_mul_div_comm]
  exact_mod_cast covers

/-- A rounded quotient covers the quotient. -/
theorem div?_covers (divisor : 0 < right.units) (found : left.div? right = some number) :
    number.Covers (left.magnitude / right.magnitude) := by
  have covers := nearest_covers divisor found
  rw [magnitude, magnitude, div_div_div_cancel_right₀ quanta_pos.ne']
  exact covers

end Arithmetic

section Scaling

/-- The magnitude of a number with these units. -/
theorem magnitude_of_units {number : Binary64} {natural : Nat}
    (counted : number.units = natural * unitsPerOne) : number.magnitude = natural := by
  rw [magnitude, counted, Nat.cast_mul, mul_div_cancel_right₀ _ quanta_pos.ne']

/-- A power of ten up to the twenty-second is represented as it is. -/
theorem exists_powerOfTen {power : Nat} (small : power ≤ 22) :
    ∃ number, ofNat? (10 ^ power) = some number ∧ number.negative = false ∧
      number.units = 10 ^ power * unitsPerOne := by
  have fives : 5 ^ power < 2 ^ 53 :=
    Nat.lt_of_le_of_lt (Nat.pow_le_pow_right (by decide) small) (by decide)
  have tens : 10 ^ power = 5 ^ power * 2 ^ power := by rw [← Nat.mul_pow]
  rw [tens]
  exact exists_ofNat fives (by omega)

/-- The sign has no part in what a number covers. -/
theorem covers_withSign (negative : Bool) (number : Binary64) (value : ℚ) :
    (number.withSign negative).Covers value ↔ number.Covers value :=
  Iff.rfl

section Start

variable {start : Binary64} {significand : Nat} (bits53 : significand < 2 ^ 53)
  (startUnits : start.units = significand * unitsPerOne)

include bits53 startUnits

/-- A number of 53 bits multiplied by a small power of ten is rounded once. -/
theorem mulPowerOfTen?_covers {power : Nat} (small : power ≤ 22) :
    ∃ number, start.mulPowerOfTen? power = some number ∧
      number.Covers (significand * 10 ^ power) := by
  obtain ⟨factor, made, _, factorUnits⟩ := exists_powerOfTen small
  have bound : start.units * factor.units < 2 ^ 200 * (unitsPerOne * unitsPerOne) := by
    have powers : 10 ^ power ≤ 10 ^ 22 := Nat.pow_le_pow_right (by decide) small
    have product : significand * 10 ^ power < 2 ^ 200 :=
      calc significand * 10 ^ power ≤ significand * 10 ^ 22 := Nat.mul_le_mul_left _ powers
        _ < 2 ^ 200 := by omega
    rw [startUnits, factorUnits, Nat.mul_mul_mul_comm]
    exact Nat.mul_lt_mul_of_pos_right product (Nat.mul_pos unitsPerOne_pos unitsPerOne_pos)
  obtain ⟨number, found⟩ := exists_nearest (start.negative != factor.negative) (by decide)
    (Nat.mul_pos unitsPerOne_pos unitsPerOne_pos) bound
  have product : start.mul? factor = some number := found
  have covers := mul?_covers product
  rw [magnitude_of_units startUnits, magnitude_of_units factorUnits, Nat.cast_pow] at covers
  refine ⟨number, ?_, covers⟩
  have within : power ≤ maxPowerOfTen := Nat.le_trans small (by decide)
  rw [mulPowerOfTen?, if_pos within, made, Option.bind_eq_bind, Option.bind_some]
  exact product

/-- A number of 53 bits divided by a small power of ten is rounded once. -/
theorem divPowerOfTen?_covers {power : Nat} (small : power ≤ 22) :
    ∃ number, start.divPowerOfTen? power = some number ∧
      number.Covers (significand / 10 ^ power) := by
  obtain ⟨divisor, made, _, divisorUnits⟩ := exists_powerOfTen small
  have positive : 0 < divisor.units := by
    rw [divisorUnits]
    exact Nat.mul_pos (Nat.pow_pos (by decide)) unitsPerOne_pos
  have bound : start.units < 2 ^ 200 * divisor.units := by
    have quotient : significand < 2 ^ 200 * 10 ^ power :=
      calc significand < 2 ^ 200 * 1 := by omega
        _ ≤ 2 ^ 200 * 10 ^ power := Nat.mul_le_mul_left _ (Nat.pow_pos (by decide))
    rw [startUnits, divisorUnits, ← Nat.mul_assoc]
    exact Nat.mul_lt_mul_of_pos_right quotient unitsPerOne_pos
  obtain ⟨number, found⟩ :=
    exists_nearest (start.negative != divisor.negative) (by decide) positive bound
  have quotient : start.div? divisor = some number := found
  have covers := div?_covers positive quotient
  rw [magnitude_of_units startUnits, magnitude_of_units divisorUnits, Nat.cast_pow] at covers
  refine ⟨number, ?_, covers⟩
  have within : power ≤ maxPowerOfTen := Nat.le_trans small (by decide)
  rw [divPowerOfTen?, if_pos within, made, Option.bind_eq_bind, Option.bind_some]
  exact quotient

end Start

/-- A significand of 53 bits, scaled by one of the small powers of ten, is rounded once: the
result covers the exact value. -/
theorem scaled?_covers (negative : Bool) {significand : Nat} (bits53 : significand < 2 ^ 53)
    {exponent : Int} (small : exponent.natAbs ≤ 22) :
    ∃ number, scaled? negative significand exponent = some number ∧
      number.negative = negative ∧ number.Covers (significand * 10 ^ exponent) := by
  obtain ⟨start, started, _, startUnits⟩ := exists_ofNat bits53 (Nat.zero_le 100)
  rw [Nat.pow_zero, Nat.mul_one] at started startUnits
  cases exponent with
  | ofNat power =>
    obtain ⟨number, found, covers⟩ := mulPowerOfTen?_covers bits53 startUnits small
    refine ⟨number.withSign negative, ?_, rfl, ?_⟩
    · rw [scaled?, started]
      exact congrArg (· >>= fun magnitude => some (magnitude.withSign negative)) found
    · rw [covers_withSign, Int.ofNat_eq_natCast, zpow_natCast]
      exact covers
  | negSucc power =>
    obtain ⟨number, found, covers⟩ := divPowerOfTen?_covers bits53 startUnits small
    refine ⟨number.withSign negative, ?_, rfl, ?_⟩
    · rw [scaled?, started]
      exact congrArg (· >>= fun magnitude => some (magnitude.withSign negative)) found
    · rw [covers_withSign, zpow_negSucc, ← div_eq_mul_inv]
      exact covers

end Scaling

end ExchangeWallet.Binary64
