import ExchangeWallet.Proofs.Binary64.Rounding
import ExchangeWallet.Proofs.Numerals
/-!
# Shortest decimals

A decimal of fifteen digits is told apart by a number with 53 significant bits: of two such
decimals a number covers one at most. So where a number covers a decimal of fifteen digits,
the shortest decimal that stands for the number is this one. It is found on its grid at the
latest, because the number lies between two neighbours there and covers no decimal between
them that is coarser than the grid.
-/
namespace ExchangeWallet

-- The powers are large, and nothing below asks for more than their signs.
attribute [local irreducible] Binary64.unitsPerOne Binary64.placesBelowOne

namespace Scientific

/-- The rational number that a decimal is. -/
def value (decimal : Scientific) : ℚ :=
  decimal.coefficient * 10 ^ decimal.exponent

/-- Moving zeros into the exponent leaves the value. -/
theorem value_stripped (coefficient : Nat) (exponent : Int) :
    (stripped coefficient exponent).value = coefficient * 10 ^ exponent := by
  induction coefficient, exponent using stripped.induct with
  | case1 coefficient exponent divisible inductionHypothesis =>
    obtain ⟨tenth, rfl⟩ := Nat.dvd_of_mod_eq_zero divisible.2
    rw [stripped, if_pos divisible, inductionHypothesis, Nat.mul_div_cancel_left tenth (by decide),
      zpow_add_one₀ (by norm_num), Nat.cast_mul]
    push_cast
    ring
  | case2 coefficient exponent trimmed =>
    rw [stripped, if_neg trimmed, value]

end Scientific

namespace Binary64

/-- The powers of ten that count decimals are there. -/
theorem place_pos (place : Nat) : 0 < 10 ^ place :=
  Nat.pow_pos (by decide)

/-- A decimal on a grid stands for a number exactly if the number covers it. -/
theorem isReadFrom_iff (number : Binary64) (coefficient place : Nat) :
    number.isReadFrom coefficient place = true ↔
      number.Covers ((coefficient * 10 ^ place : Nat) / (10 ^ placesBelowOne : Nat)) := by
  let gap := 10 ^ placesBelowOne * 2 ^ number.shift
  let quanta := coefficient * 10 ^ place * unitsPerOne
  have decimal : coefficient * 10 ^ place * (4 * unitsPerOne) = 4 * quanta := by
    simp only [quanta]
    ring
  have below : (if number.hasNarrowGapBelow then 2 ^ number.shift else 2 * 2 ^ number.shift) =
      number.halvesBelow * 2 ^ number.shift := by
    rw [halvesBelow]
    split <;> ring
  have low : (4 * number.units - number.halvesBelow * 2 ^ number.shift) * 10 ^ placesBelowOne =
      4 * (number.significand * gap) - number.halvesBelow * gap := by
    rw [Nat.sub_mul, units]
    simp only [gap]
    congr 1 <;> ring
  have high : (4 * number.units + 2 * 2 ^ number.shift) * 10 ^ placesBelowOne =
      4 * (number.significand * gap) + 2 * gap := by
    rw [units]
    simp only [gap]
    ring
  refine Iff.trans ?_ (covers_quotient_iff number (coefficient * 10 ^ place)
    (place_pos placesBelowOne)).symm
  change _ ↔ if number.significand % 2 = 0 then
      4 * (number.significand * gap) ≤ 4 * quanta + number.halvesBelow * gap ∧
        4 * quanta ≤ 4 * (number.significand * gap) + 2 * gap
    else
      4 * (number.significand * gap) < 4 * quanta + number.halvesBelow * gap ∧
        4 * quanta < 4 * (number.significand * gap) + 2 * gap
  unfold isReadFrom
  simp only [decimal, below, low, high]
  split
  · rw [Bool.and_eq_true, decide_eq_true_eq, decide_eq_true_eq, tsub_le_iff_right]
  · next odd =>
    have enough : number.halvesBelow * gap ≤ 4 * (number.significand * gap) := by
      have one : 1 * gap ≤ number.significand * gap := Nat.mul_le_mul_right gap (by omega)
      rcases number.halvesBelow_cases with halves | ⟨halves, _, _⟩ <;> rw [halves] <;> omega
    rw [Bool.and_eq_true, decide_eq_true_eq, decide_eq_true_eq, tsub_lt_iff_right enough]

section Separation

/-- A decimal counted in a power of ten that is not above its own. -/
theorem exists_count (coefficient : Nat) {place exponent : Int} (coarser : place ≤ exponent) :
    ∃ count : Nat, (coefficient : ℚ) * 10 ^ exponent = count * 10 ^ place := by
  obtain ⟨difference, rfl⟩ := Int.le.dest coarser
  refine ⟨coefficient * 10 ^ difference, ?_⟩
  rw [zpow_add₀ (by norm_num), zpow_natCast]
  push_cast
  ring

/-- Different decimals are apart by the power of ten that counts both. -/
theorem power_le_sub {first second : Nat} {place firstExponent secondExponent : Int}
    (firstCoarser : place ≤ firstExponent) (secondCoarser : place ≤ secondExponent)
    (less : (first : ℚ) * 10 ^ firstExponent < second * 10 ^ secondExponent) :
    (10 : ℚ) ^ place ≤ second * 10 ^ secondExponent - first * 10 ^ firstExponent := by
  obtain ⟨lower, isLower⟩ := exists_count first firstCoarser
  obtain ⟨upper, isUpper⟩ := exists_count second secondCoarser
  have positive : (0 : ℚ) < 10 ^ place := by positivity
  rw [isLower, isUpper] at less ⊢
  have counts : lower + 1 ≤ upper := by exact_mod_cast lt_of_mul_lt_mul_right less positive.le
  have step : (lower : ℚ) + 1 ≤ upper := by exact_mod_cast counts
  nlinarith

variable {number : Binary64}

/-- The gap above a number. -/
def gap (number : Binary64) : ℚ :=
  2 ^ number.shift / unitsPerOne

/-- Gaps are positive. -/
theorem gap_pos (number : Binary64) : 0 < number.gap :=
  div_pos (by positivity) quanta_pos

/-- A number covers no more than one gap. -/
theorem Covers.sub_le_gap {first second : ℚ} (coversFirst : number.Covers first)
    (coversSecond : number.Covers second) : second - first ≤ number.gap := by
  have halves : (number.halvesBelow : ℚ) ≤ 2 := by
    rcases number.halvesBelow_cases with halves | ⟨halves, _, _⟩ <;> rw [halves] <;> norm_num
  have ends : number.greatest - number.least ≤ number.gap := by
    have power : (0 : ℚ) < 2 ^ number.shift := by positivity
    have quanta := quanta_pos
    rw [greatest, least, gap, div_sub_div_same, div_le_div_iff₀ (by positivity) quanta]
    nlinarith [mul_le_mul_of_nonneg_right halves power.le]
  have above := coversSecond.between.2
  have below := coversFirst.between.1
  linarith

/-- What a number with 53 significant bits covers is large as compared to its gap. -/
theorem Covers.gap_le {value : ℚ} (covers : number.Covers value)
    (normal : 2 ^ 52 ≤ number.significand) : 2 ^ 51 * number.gap ≤ value := by
  have halves : (number.halvesBelow : ℚ) ≤ 2 := by
    rcases number.halvesBelow_cases with halves | ⟨halves, _, _⟩ <;> rw [halves] <;> norm_num
  have significand : (2 ^ 52 : ℚ) ≤ number.significand := by exact_mod_cast normal
  refine le_trans ?_ covers.between.1
  have power : (0 : ℚ) < 2 ^ number.shift := by positivity
  have quanta := quanta_pos
  rw [gap, least, units, ← mul_div_assoc, div_le_div_iff₀ quanta (by positivity)]
  have factor : (2 ^ 53 : ℚ) ≤ 4 * number.significand - number.halvesBelow := by linarith
  calc (2 ^ 51 * 2 ^ number.shift * (4 * unitsPerOne) : ℚ)
      = 2 ^ 53 * (2 ^ number.shift * unitsPerOne) := by ring
    _ ≤ (4 * number.significand - number.halvesBelow) * (2 ^ number.shift * unitsPerOne) :=
        mul_le_mul_of_nonneg_right factor (by positivity)
    _ = (4 * ((number.significand * 2 ^ number.shift : Nat) : ℚ) -
          number.halvesBelow * 2 ^ number.shift) * unitsPerOne := by
        push_cast
        ring

section Unique

variable {first second : Nat} {firstExponent secondExponent : Int}

/-- Of two decimals of fifteen digits that a number with 53 significant bits covers, neither
is below the other. They would be apart by a gap at most, and so would be one of them and
zero, as it has few digits; but both are large as compared to the gap. -/
theorem not_lt_of_covers (normal : 2 ^ 52 ≤ number.significand) (firstShort : first ≤ 10 ^ 15)
    (secondShort : second ≤ 10 ^ 15) (coversFirst : number.Covers (first * 10 ^ firstExponent))
    (coversSecond : number.Covers (second * 10 ^ secondExponent)) :
    ¬ (first : ℚ) * 10 ^ firstExponent < second * 10 ^ secondExponent := by
  intro less
  have close := coversFirst.sub_le_gap coversSecond
  have positive := number.gap_pos
  rcases le_total firstExponent secondExponent with finer | coarser
  · have apart := power_le_sub le_rfl finer less
    have digits : (first : ℚ) ≤ 10 ^ 15 := by exact_mod_cast firstShort
    have large := coversFirst.gap_le normal
    have small : (first : ℚ) * 10 ^ firstExponent ≤ 10 ^ 15 * number.gap :=
      mul_le_mul digits (apart.trans close) (by positivity) (by positivity)
    linarith
  · have apart := power_le_sub coarser le_rfl less
    have digits : (second : ℚ) ≤ 10 ^ 15 := by exact_mod_cast secondShort
    have large := coversSecond.gap_le normal
    have small : (second : ℚ) * 10 ^ secondExponent ≤ 10 ^ 15 * number.gap :=
      mul_le_mul digits (apart.trans close) (by positivity) (by positivity)
    linarith

/-- Of the decimals of fifteen digits a number with 53 significant bits covers one at
most. -/
theorem covered_unique (normal : 2 ^ 52 ≤ number.significand) (firstShort : first ≤ 10 ^ 15)
    (secondShort : second ≤ 10 ^ 15) (coversFirst : number.Covers (first * 10 ^ firstExponent))
    (coversSecond : number.Covers (second * 10 ^ secondExponent)) :
    (first : ℚ) * 10 ^ firstExponent = second * 10 ^ secondExponent :=
  le_antisymm
    (not_lt.mp (not_lt_of_covers normal secondShort firstShort coversSecond coversFirst))
    (not_lt.mp (not_lt_of_covers normal firstShort secondShort coversFirst coversSecond))

end Unique

end Separation

section Search

variable (number : Binary64)

/-- The number counted in the least place, without its fraction. -/
def wholePlaces : Nat :=
  number.dividend / unitsPerOne

/-- The whole places have as many digits as `places` says. -/
theorem wholePlaces_lt : number.wholePlaces < 10 ^ number.places :=
  (Numeral.length_naturalText_le_iff
    (List.length_pos_iff.mpr (Numeral.naturalText_nonempty number.wholePlaces))).mp le_rfl

/-- The whole places do not have fewer digits than `places` says. -/
theorem le_wholePlaces {fewer : Nat} (positive : 0 < fewer) (less : fewer < number.places) :
    10 ^ fewer ≤ number.wholePlaces := by
  by_contra below
  have short := (Numeral.length_naturalText_le_iff positive).mpr (Nat.lt_of_not_le below)
  exact absurd short (Nat.not_le_of_lt less)

/-- The lower neighbour of a number on a grid. -/
theorem dividend_div_grid (place : Nat) :
    number.dividend / (10 ^ place * unitsPerOne) = number.wholePlaces / 10 ^ place := by
  rw [wholePlaces, Nat.div_div_eq_div_mul, Nat.mul_comm]

/-- The decimal found on a grid is one of the two neighbours there and stands for the
number. -/
theorem withDigits?_eq_some {count : Nat} {decimal : Scientific}
    (found : number.withDigits? count = some decimal) :
    ∃ coefficient, coefficient ≤ number.wholePlaces / 10 ^ (number.places - count) + 1 ∧
      number.isReadFrom coefficient (number.places - count) = true ∧
      decimal = Scientific.stripped coefficient
        ((number.places - count : Nat) - (placesBelowOne : Int)) := by
  unfold withDigits? at found
  simp only [dividend_div_grid] at found
  split at found
  · next below above =>
    split at found
    · exact ⟨_, Nat.le_succ _, below, (Option.some.inj found).symm⟩
    · exact ⟨_, le_rfl, above, (Option.some.inj found).symm⟩
  · next below _ => exact ⟨_, Nat.le_succ _, below, (Option.some.inj found).symm⟩
  · next _ above => exact ⟨_, le_rfl, above, (Option.some.inj found).symm⟩
  · cases found

/-- Where none is found on a grid, neither neighbour stands for the number. -/
theorem withDigits?_eq_none {count : Nat} (missing : number.withDigits? count = none) :
    let below := number.wholePlaces / 10 ^ (number.places - count)
    number.isReadFrom below (number.places - count) = false ∧
      number.isReadFrom (below + 1) (number.places - count) = false := by
  intro below
  unfold withDigits? at missing
  simp only [dividend_div_grid] at missing
  split at missing
  · split at missing <;> cases missing
  · cases missing
  · cases missing
  · next notBelow notAbove => exact ⟨notBelow, notAbove⟩

/-- Whether a decimal on a grid stands for a number, with the grid in the exponent. -/
theorem isReadFrom_iff_covers (coefficient place : Nat) :
    number.isReadFrom coefficient place = true ↔
      number.Covers (coefficient * 10 ^ ((place : Int) - (placesBelowOne : Int))) := by
  rw [isReadFrom_iff, zpow_sub₀ (by norm_num), zpow_natCast, zpow_natCast, Nat.cast_mul,
    Nat.cast_pow, Nat.cast_pow, mul_div_assoc]
  rfl

/-- A number lies between its two neighbours on a grid. -/
theorem between_neighbours (place : Nat) :
    let below := number.wholePlaces / 10 ^ place
    (below : ℚ) * 10 ^ ((place : Int) - (placesBelowOne : Int)) ≤ number.magnitude ∧
      number.magnitude ≤ (below + 1 : Nat) * 10 ^ ((place : Int) - (placesBelowOne : Int)) := by
  intro below
  have grid : 0 < 10 ^ place * unitsPerOne := Nat.mul_pos (place_pos place) unitsPerOne_pos
  have quotient : below = number.dividend / (10 ^ place * unitsPerOne) :=
    (number.dividend_div_grid place).symm
  have lower : below * (10 ^ place * unitsPerOne) ≤ number.dividend := by
    rw [quotient]
    exact Nat.div_mul_le_self _ _
  have upper : number.dividend ≤ (below + 1) * (10 ^ place * unitsPerOne) := by
    rw [quotient, Nat.mul_comm]
    exact (Nat.lt_mul_div_succ _ grid).le
  have least : (0 : ℚ) < 10 ^ placesBelowOne := by positivity
  rw [zpow_sub₀ (by norm_num), zpow_natCast, zpow_natCast, ← mul_div_assoc, ← mul_div_assoc,
    magnitude, div_le_div_iff₀ least quanta_pos, div_le_div_iff₀ quanta_pos least]
  rw [dividend] at lower upper
  constructor
  · have bound : ((below * (10 ^ place * unitsPerOne) : Nat) : ℚ) ≤
        (number.units * 10 ^ placesBelowOne : Nat) := Nat.cast_le.mpr lower
    push_cast at bound
    linarith
  · have bound : ((number.units * 10 ^ placesBelowOne : Nat) : ℚ) ≤
        ((below + 1) * (10 ^ place * unitsPerOne) : Nat) := Nat.cast_le.mpr upper
    push_cast at bound ⊢
    linarith

/-- A number with 53 significant bits has many whole places. -/
theorem fifteen_le_places {number : Binary64} (normal : 2 ^ 52 ≤ number.significand) :
    15 ≤ number.places := by
  have quanta : 10 ^ 14 * unitsPerOne ≤ 2 ^ 52 * 10 ^ placesBelowOne := by decide +kernel
  have units : 2 ^ 52 ≤ number.units :=
    normal.trans (Nat.le_mul_of_pos_right _ (Nat.two_pow_pos _))
  have whole : 10 ^ 14 ≤ number.wholePlaces := by
    rw [wholePlaces, Nat.le_div_iff_mul_le unitsPerOne_pos]
    exact quanta.trans (Nat.mul_le_mul_right _ units)
  by_contra few
  have short := (Numeral.length_naturalText_le_iff (by decide : 0 < 14)).mp
    (Nat.le_of_lt_succ (Nat.lt_of_not_le few))
  exact absurd whole (Nat.not_le_of_lt short)

variable {number} {coefficient : Nat} {exponent : Int}

/-- Where a number with 53 significant bits covers a decimal of fifteen digits, one is found
on the grid of fifteen digits. Otherwise the covered decimal would lie strictly between two
neighbours on the grid; it would have a smaller exponent than the grid, and with its few
digits it would not reach the lower neighbour. -/
theorem withDigits?_fifteen (normal : 2 ^ 52 ≤ number.significand) (short : coefficient < 10 ^ 15)
    (covers : number.Covers (coefficient * 10 ^ exponent)) : number.withDigits? 15 ≠ none := by
  intro missing
  have enough := fifteen_le_places normal
  let place := number.places - 15
  let below := number.wholePlaces / 10 ^ place
  let grid : Int := (place : Int) - (placesBelowOne : Int)
  obtain ⟨notBelow, notAbove⟩ := number.withDigits?_eq_none missing
  change number.isReadFrom below place = false at notBelow
  change number.isReadFrom (below + 1) place = false at notAbove
  rw [← Bool.not_eq_true, isReadFrom_iff_covers] at notBelow notAbove
  obtain ⟨lower, upper⟩ := number.between_neighbours place
  have above : (below : ℚ) * 10 ^ grid < coefficient * 10 ^ exponent := by
    by_contra beyond
    exact notBelow (covers.convex number.covers_magnitude (not_lt.mp beyond) lower)
  have beneath : (coefficient : ℚ) * 10 ^ exponent < (below + 1 : Nat) * 10 ^ grid := by
    by_contra beyond
    exact notAbove (number.covers_magnitude.convex covers upper (not_lt.mp beyond))
  have positive : (0 : ℚ) < 10 ^ grid := by positivity
  rcases le_or_gt grid exponent with coarser | finer
  · obtain ⟨count, counted⟩ := exists_count coefficient coarser
    rw [counted] at above beneath
    have more : below < count := by exact_mod_cast lt_of_mul_lt_mul_right above positive.le
    have less : count < below + 1 := by exact_mod_cast lt_of_mul_lt_mul_right beneath positive.le
    omega
  · have digits : 10 ^ 14 ≤ below := by
      rw [Nat.le_div_iff_mul_le (place_pos place), ← Nat.pow_add]
      exact number.le_wholePlaces (by omega) (by omega)
    have few : (coefficient : ℚ) * 10 ^ exponent ≤ below * 10 ^ grid :=
      calc (coefficient : ℚ) * 10 ^ exponent ≤ 10 ^ 15 * 10 ^ exponent := by
            have bound : (coefficient : ℚ) ≤ 10 ^ 15 := by exact_mod_cast short.le
            exact mul_le_mul_of_nonneg_right bound (by positivity)
        _ = 10 ^ 14 * 10 ^ (exponent + 1) := by
            rw [zpow_add_one₀ (by norm_num)]
            ring
        _ ≤ below * 10 ^ grid := by
            have bound : (10 ^ 14 : ℚ) ≤ below := by exact_mod_cast digits
            exact mul_le_mul bound (zpow_le_zpow_right₀ (by norm_num) finer) (by positivity)
              (by positivity)
    exact absurd above (not_lt.mpr few)

/-- A decimal found on a grid of at most fifteen digits is the one of fifteen digits that a
number with 53 significant bits covers. -/
theorem value_of_withDigits? (normal : 2 ^ 52 ≤ number.significand)
    (short : coefficient ≤ 10 ^ 15) (covers : number.Covers (coefficient * 10 ^ exponent))
    {count : Nat} (few : count ≤ 15) {decimal : Scientific}
    (found : number.withDigits? count = some decimal) :
    decimal.value = coefficient * 10 ^ exponent := by
  obtain ⟨neighbour, bound, stands, rfl⟩ := number.withDigits?_eq_some found
  have digits : neighbour ≤ 10 ^ 15 := by
    have whole : number.wholePlaces / 10 ^ (number.places - count) < 10 ^ 15 := by
      rw [Nat.div_lt_iff_lt_mul (place_pos _), ← Nat.pow_add]
      exact number.wholePlaces_lt.trans_le (Nat.pow_le_pow_right (by decide) (by omega))
    omega
  rw [Scientific.value_stripped]
  exact covered_unique normal digits short ((number.isReadFrom_iff_covers _ _).mp stands) covers

/-- The shortest decimal that stands for a number with 53 significant bits is the decimal of
fifteen digits that it covers, where there is one. -/
theorem value_shortest (normal : 2 ^ 52 ≤ number.significand) (short : coefficient < 10 ^ 15)
    (covers : number.Covers (coefficient * 10 ^ exponent)) :
    number.shortest.value = coefficient * 10 ^ exponent := by
  have counts : List.range' 1 17 = List.range' 1 15 ++ [16, 17] := by decide
  obtain ⟨decimal, first⟩ : ∃ decimal,
      (List.range' 1 15).findSome? number.withDigits? = some decimal := by
    rw [← Option.isSome_iff_exists, List.findSome?_isSome_iff]
    refine ⟨15, by decide, ?_⟩
    rw [Option.isSome_iff_ne_none]
    exact withDigits?_fifteen normal short covers
  obtain ⟨count, member, found⟩ := List.exists_of_findSome?_eq_some first
  have few : count ≤ 15 := by
    have range := List.mem_range'_1.mp member
    omega
  rw [shortest, counts, List.findSome?_append, first, Option.some_or, Option.getD_some]
  exact value_of_withDigits? normal short.le covers few found

/-- A number that covers a value which is not tiny has 53 significant bits: without a shift,
it would be below the value. -/
theorem normal_of_covers {value : ℚ} (covers : number.Covers value)
    (large : 1 ≤ 10 ^ 30 * value) : 2 ^ 52 ≤ number.significand := by
  refine number.normal.resolve_left ?_
  intro unshifted
  have quanta : ((10 ^ 30 * 2 ^ 54 : Nat) : ℚ) ≤ unitsPerOne :=
    Nat.cast_le.mpr (by decide +kernel)
  have significand : (number.significand : ℚ) < 2 ^ 53 := by exact_mod_cast number.significand_lt
  have above := covers.between.2
  rw [greatest, units, unshifted, le_div_iff₀ (mul_pos (by norm_num) quanta_pos)] at above
  push_cast at above quanta
  have positive : 0 ≤ value := by linarith
  have lower : 2 ^ 54 ≤ value * unitsPerOne :=
    calc (2 ^ 54 : ℚ) ≤ 10 ^ 30 * value * 2 ^ 54 := by linarith
      _ = value * (10 ^ 30 * 2 ^ 54) := by ring
      _ ≤ value * unitsPerOne := mul_le_mul_of_nonneg_left (by linarith) positive
  linarith

/-- A number that covers zero is zero. -/
theorem units_of_covers_zero (covers : number.Covers 0) : number.units = 0 := by
  have below := covers.between.1
  rw [least, div_le_iff₀ (mul_pos (by norm_num) quanta_pos), zero_mul] at below
  have halves : number.halvesBelow ≤ 2 := by
    rcases number.halvesBelow_cases with halves | ⟨halves, _, _⟩ <;> omega
  have power : 0 < 2 ^ number.shift := Nat.two_pow_pos _
  have quarters : 4 * number.units ≤ number.halvesBelow * 2 ^ number.shift := by
    exact_mod_cast sub_nonpos.mp below
  rw [units, ← Nat.mul_assoc] at quarters
  have factors := Nat.le_of_mul_le_mul_right quarters power
  have none : number.significand = 0 := by omega
  rw [units, none, Nat.zero_mul]

end Search

end Binary64

end ExchangeWallet
