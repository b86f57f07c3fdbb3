import ExchangeWallet.Proofs.Binary64.Shortest
/-!
# Seventeen digits are enough

On a grid of seventeen digits the neighbours of a number are closer to each other than the ends
of the interval that the number covers, also at a power of two, where the number covers less.
So one of the two neighbours stands for the number, and the shortest decimal is always found.
-/
namespace ExchangeWallet

-- The powers are large, and nothing below asks for more than their signs.
attribute [local irreducible] Binary64.unitsPerOne Binary64.placesBelowOne

/-- Moving zeros into the exponent does not raise the coefficient. -/
theorem Scientific.stripped_le (coefficient : Nat) (exponent : Int) :
    (stripped coefficient exponent).coefficient ≤ coefficient := by
  induction coefficient, exponent using stripped.induct with
  | case1 coefficient exponent divisible inductionHypothesis =>
    rw [stripped, if_pos divisible]
    exact inductionHypothesis.trans (Nat.div_le_self coefficient 10)
  | case2 coefficient exponent trimmed => rw [stripped, if_neg trimmed]

namespace Binary64

variable (number : Binary64)

/-- A value strictly between the ends is covered. -/
theorem covers_of_between {number : Binary64} {value : ℚ} (above : number.least < value)
    (below : value < number.greatest) : number.Covers value := by
  unfold Covers
  split
  · exact ⟨above.le, below.le⟩
  · exact ⟨above, below⟩

/-- A number is its significand counted in its gap. -/
theorem magnitude_eq : number.magnitude = number.significand * number.gap := by
  rw [magnitude, units, gap, Nat.cast_mul, Nat.cast_pow, Nat.cast_ofNat, mul_div_assoc]

/-- The ends of the interval that a number covers are a half gap above it, and a half or a
quarter of a gap below it. -/
theorem ends_eq :
    number.least = number.magnitude - number.halvesBelow / 4 * number.gap ∧
      number.greatest = number.magnitude + 1 / 2 * number.gap := by
  rw [least, greatest, magnitude, gap]
  constructor <;> ring

/-- Seventeen digits count a number more finely than the interval is wide that it covers. -/
theorem lt_width {step : ℚ} (fine : 10 ^ 16 * step ≤ number.magnitude) :
    step < number.greatest - number.least := by
  have positive := number.gap_pos
  obtain ⟨least, greatest⟩ := number.ends_eq
  rw [magnitude_eq] at fine
  rw [least, greatest]
  rcases number.halvesBelow_cases with halves | ⟨halves, power, -⟩
  · have bits : (number.significand : ℚ) < 2 ^ 53 := by exact_mod_cast number.significand_lt
    rw [halves]
    push_cast
    nlinarith
  · rw [halves]
    rw [power] at fine
    push_cast at fine ⊢
    nlinarith

/-- A number lies strictly between the ends. -/
theorem strictly_between :
    number.least < number.magnitude ∧ number.magnitude < number.greatest := by
  obtain ⟨least, greatest⟩ := number.ends_eq
  have positive := number.gap_pos
  have halves : (0 : ℚ) < number.halvesBelow := by
    rcases number.halvesBelow_cases with halves | ⟨halves, -, -⟩ <;> rw [halves] <;> norm_num
  have below : 0 < (number.halvesBelow : ℚ) / 4 * number.gap := by positivity
  constructor
  · linarith
  · linarith

variable {number} (nonzero : number.units ≠ 0)

include nonzero

/-- A number that is not zero has many whole places. -/
theorem seventeen_le_places : 17 ≤ number.places := by
  have quanta : 10 ^ 16 * unitsPerOne ≤ 1 * 10 ^ placesBelowOne := by decide +kernel
  have units : 1 ≤ number.units := Nat.one_le_iff_ne_zero.mpr nonzero
  have whole : 10 ^ 16 ≤ number.wholePlaces := by
    rw [wholePlaces, Nat.le_div_iff_mul_le unitsPerOne_pos]
    exact quanta.trans (Nat.mul_le_mul_right _ units)
  by_contra few
  have short := (Numeral.length_naturalText_le_iff (by decide : 0 < 16)).mp
    (Nat.le_of_lt_succ (Nat.lt_of_not_le few))
  exact absurd whole (Nat.not_le_of_lt short)

/-- The grid of seventeen digits is fine as compared to the number. -/
theorem grid_le_magnitude :
    10 ^ 16 * (10 : ℚ) ^ (((number.places - 17 : Nat) : Int) - placesBelowOne) ≤
      number.magnitude := by
  have enough := seventeen_le_places nonzero
  have digits : 10 ^ (number.places - 1) ≤ number.wholePlaces :=
    number.le_wholePlaces (by omega) (by omega)
  have lower := (number.between_neighbours 0).1
  rw [Nat.pow_zero, Nat.div_one] at lower
  refine le_trans ?_ lower
  have power : 10 ^ 16 * (10 : ℚ) ^ (((number.places - 17 : Nat) : Int) - placesBelowOne) =
      ((10 ^ (number.places - 1) : Nat) : ℚ) * 10 ^ ((0 : Nat) - (placesBelowOne : Int)) := by
    rw [Nat.cast_pow, Nat.cast_ofNat, ← zpow_natCast, ← zpow_natCast,
      ← zpow_add₀ (by norm_num), ← zpow_add₀ (by norm_num)]
    congr 1
    omega
  rw [power]
  exact mul_le_mul_of_nonneg_right (by exact_mod_cast digits) (by positivity)

/-- One is found on the grid of seventeen digits. Otherwise both neighbours there would be
outside of the interval that the number covers, and farther apart than they are. -/
theorem withDigits?_seventeen : number.withDigits? 17 ≠ none := by
  intro missing
  obtain ⟨notBelow, notAbove⟩ := number.withDigits?_eq_none missing
  rw [← Bool.not_eq_true, isReadFrom_iff_covers] at notBelow notAbove
  obtain ⟨lower, upper⟩ := number.between_neighbours (number.places - 17)
  obtain ⟨aboveLeast, belowGreatest⟩ := number.strictly_between
  have narrow := number.lt_width (grid_le_magnitude nonzero)
  have outsideBelow := not_lt.mp fun inside =>
    notBelow (covers_of_between inside (lower.trans_lt belowGreatest))
  have outsideAbove := not_lt.mp fun inside =>
    notAbove (covers_of_between (aboveLeast.trans_le upper) inside)
  push_cast at outsideAbove outsideBelow
  linarith

/-- The shortest decimal stands for the number and has seventeen digits at most. -/
theorem shortest_covers :
    number.Covers number.shortest.value ∧ number.shortest.coefficient ≤ 10 ^ 17 := by
  obtain ⟨decimal, first⟩ : ∃ decimal,
      (List.range' 1 17).findSome? number.withDigits? = some decimal := by
    rw [← Option.isSome_iff_exists, List.findSome?_isSome_iff]
    refine ⟨17, by decide, ?_⟩
    rw [Option.isSome_iff_ne_none]
    exact withDigits?_seventeen nonzero
  obtain ⟨count, member, found⟩ := List.exists_of_findSome?_eq_some first
  obtain ⟨neighbour, bound, stands, rfl⟩ := number.withDigits?_eq_some found
  rw [shortest, first, Option.getD_some, Scientific.value_stripped]
  refine ⟨(number.isReadFrom_iff_covers _ _).mp stands, (Scientific.stripped_le _ _).trans ?_⟩
  have range := List.mem_range'_1.mp member
  have whole : number.wholePlaces / 10 ^ (number.places - count) < 10 ^ 17 := by
    rw [Nat.div_lt_iff_lt_mul (place_pos _), ← Nat.pow_add]
    exact number.wholePlaces_lt.trans_le (Nat.pow_le_pow_right (by decide) (by omega))
  omega

/-- The shortest decimal of a number that is not zero is not zero. -/
theorem shortest_ne_zero : number.shortest.coefficient ≠ 0 := by
  intro none
  have covers := (shortest_covers nonzero).1
  rw [Scientific.value, none, Nat.cast_zero, zero_mul] at covers
  exact nonzero (units_of_covers_zero covers)

end Binary64

end ExchangeWallet
